import YdbSdk.Go

/-!
# Temporal Payloads

The integer forms of the temporal values and their conversions to Go's
`time.Time` and `time.Duration`. The helpers live in the package's `time.go`,
which is not under `src/`; they are modelled from the spec (§3): a Date counts
days since 1970-01-01, a Datetime seconds, a Timestamp microseconds, all
unsigned, and an Interval counts signed microseconds.

A `time.Duration` is an `int64` of nanoseconds, so it is `BitVec 64` here and
`IntervalToDuration` wraps exactly as the Go multiplication does. Dividing two
durations is `int64` division, `BitVec.sdiv`.

The way back from a `time.Time` goes through `t.Sub(epoch)`, which the Go
library saturates at the ends of the `time.Duration` range, and `t.Unix()`.
Between the epoch and about the year 2262 neither saturates nor wraps
(`GoTime.toNat_Sub_epoch`).

## Main definitions

* `DateToTime`, `DatetimeToTime`, `TimestampToTime`: The instant a payload denotes.
* `IntervalToDuration`: The duration of a signed count of microseconds.
* `epoch`, `secondsPerDay`, `Second`, `Microsecond`: The constants of the way back.
* `GoTime.Sub`, `GoTime.Unix`: `t.Sub(u)` and `t.Unix()`.

## Theorems

* `GoTime.toNat_Sub_epoch`: After the epoch and in range, `t.Sub(epoch)` is exact.
* `toNat_sdiv_of_lt`: Dividing non-negative durations divides their numbers.
-/

namespace YdbSdk

/-- Modelled from the spec: `DateToTime(d)`, midnight UTC of day `d` after the epoch. -/
def DateToTime (d : BitVec 32) : GoTime := GoTime.unix (d.toNat * 86400)

/-- Modelled from the spec: `DatetimeToTime(s)`, `s` seconds after the epoch. -/
def DatetimeToTime (s : BitVec 32) : GoTime := GoTime.unix s.toNat

/-- Modelled from the spec: `TimestampToTime(us)`, `us` microseconds after the epoch. -/
def TimestampToTime (us : BitVec 64) : GoTime :=
  ⟨us.toNat / 1000000, us.toNat % 1000000 * 1000, by omega⟩

/-- Modelled from the spec: `IntervalToDuration(n)`, which is
    `time.Duration(n) * time.Microsecond` and wraps in `int64`. -/
def IntervalToDuration (n : BitVec 64) : BitVec 64 := n * 1000

/-- Modelled from the spec: `epoch`, 1970-01-01T00:00:00Z. -/
def epoch : GoTime := GoTime.unix 0

/-- Modelled from the spec: `secondsPerDay`, a day of `uint64` seconds. -/
def secondsPerDay : BitVec 64 := 86400

/-- `time.Second`, as a `time.Duration`. -/
def Second : BitVec 64 := 1000000000

/-- `time.Microsecond`, as a `time.Duration`. -/
def Microsecond : BitVec 64 := 1000

/-- `secondsPerDay` is 86400. -/
@[simp] theorem toNat_secondsPerDay : secondsPerDay.toNat = 86400 := rfl
/-- `time.Second` is 10^9 nanoseconds. -/
@[simp] theorem toNat_Second : Second.toNat = 1000000000 := rfl
/-- `time.Microsecond` is 1000 nanoseconds. -/
@[simp] theorem toNat_Microsecond : Microsecond.toNat = 1000 := rfl

/-- `t.Sub(u)`: the nanoseconds from `u` to `t` as a `time.Duration`, or, past
    its range, the largest or smallest `time.Duration`, as `time` documents. -/
def GoTime.Sub (t u : GoTime) : BitVec 64 :=
  let d : Int := (t.sec - u.sec) * 1000000000 + ((t.nsec : Int) - u.nsec)
  if d < -2 ^ 63 then BitVec.ofInt 64 (-2 ^ 63)
  else if 2 ^ 63 ≤ d then BitVec.ofInt 64 (2 ^ 63 - 1)
  else BitVec.ofInt 64 d

/-- `t.Unix()`, the seconds since the epoch as an `int64`. -/
def GoTime.Unix (t : GoTime) : BitVec 64 := BitVec.ofInt 64 t.sec

/-- A time at or after the epoch and less than `2^63` nanoseconds past it is
    that many nanoseconds from the epoch, with no saturation. -/
theorem GoTime.toNat_Sub_epoch (t : GoTime) (h0 : 0 ≤ t.sec)
    (h1 : t.sec * 1000000000 + t.nsec < 2 ^ 63) :
    (t.Sub epoch).toNat = (t.sec * 1000000000 + t.nsec).toNat := by
  have hn := t.nsec_lt
  simp only [GoTime.Sub, epoch, GoTime.unix]
  rw [if_neg (by omega), if_neg (by omega), BitVec.toNat_ofInt]
  omega

/-- Go's `/` of two non-negative `int64`s is the quotient of their numbers. -/
theorem toNat_sdiv_of_lt {x y : BitVec 64} (hx : x.toNat < 2 ^ 63) (hy : y.toNat < 2 ^ 63) :
    (x.sdiv y).toNat = x.toNat / y.toNat := by
  rw [BitVec.sdiv_eq, BitVec.msb_eq_false_iff_two_mul_lt.mpr (by omega),
    BitVec.msb_eq_false_iff_two_mul_lt.mpr (by omega)]
  exact BitVec.toNat_udiv

end YdbSdk
