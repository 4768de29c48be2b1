import Mathlib.Data.Nat.GCD.Basic
import YdbSdk.Value.Render

/-!
# Interval Rendering

`intervalValue.toString` writes an ISO 8601 duration, and it does so in `int64`
arithmetic: the payload's microseconds become a `time.Duration` by a multiplication
that wraps, a negative duration is negated, and days, hours and minutes are peeled
off by Go's truncating division, the rest going to `fmt` as seconds.
`intervalString` in `Value.Render` is that code, step by step.

`isoDuration` says what the code is for, over `Int` and `Nat` where nothing wraps:
a sign, then `P`, then the days, hours and minutes of the magnitude and the
remaining seconds, each only when it is not zero, with a `T` before the time part.
Each of the code's guarded steps is exact while its duration is below `2^63`
(`peelUnit_eq`, `peelDays_eq`), and after the sign is taken off it always is,
except for one duration: `-2^63`, whose negation is itself. Every comparison with
zero then fails and the rendering stops at `-P` (`intervalString_of_eq_intMin`).
So the code refines the abstract rendering of its own wrapped duration, and of
nothing else (`intervalString_eq`).

Within `⌊2^63 / 1000⌋` microseconds either side of zero the multiplication does not
wrap, and the rendering is that of the payload itself (`intervalString_exact`).
Beyond, it is the rendering of another duration; the payloads that wrap to `-2^63`
are exactly those congruent to `2^60` modulo `2^61`, positive ones among them,
and they are the only ones rendered `-P` (`intervalString_eq_minusP_iff`).

## Main definitions

* `isoDuration`: The ISO 8601 rendering of a signed number of nanoseconds.

## Theorems

* `peelUnit_eq`, `peelDays_eq`: One guarded division step, computed over `Nat`.
* `takeSign_eq`: Taking the sign off any duration but `-2^63`.
* `intervalString_eq`: The code renders its wrapped duration, or `-P` at `-2^63`.
* `IntervalToDuration_toInt`: In range, the duration is the payload times 1000.
* `intervalString_exact`: In range, the code renders the payload's duration.
* `intervalString_eq_minusP_iff`: The payloads rendered `-P`.
-/

namespace YdbSdk

open GoString

/-- The ISO 8601 duration of `d` nanoseconds as `intervalValue.toString` lays it out:
    days, then after a `T` hours, minutes, and seconds by `%0.6f`, each part only
    when its count is not zero. -/
def isoDuration (rt : Runtime) (d : Int) : GoString :=
  let n := d.natAbs
  (if d < 0 then lit "-" else []) ++ lit "P" ++
    (if 0 < n / 86400000000000 then FormatUint (n / 86400000000000) ++ lit "D" else []) ++
    (if 0 < n % 86400000000000 then lit "T" else []) ++
    (if 0 < n % 86400000000000 / 3600000000000 then
      FormatUint (n % 86400000000000 / 3600000000000) ++ lit "H" else []) ++
    (if 0 < n % 3600000000000 / 60000000000 then
      FormatUint (n % 3600000000000 / 60000000000) ++ lit "M" else []) ++
    (if 0 < n % 60000000000 then
      rt.formatSeconds (BitVec.ofNat 64 (n % 60000000000)) ++ lit "S" else [])

/-! ## One step of the code, over `Nat` -/

section Steps

variable {x u : BitVec 64}

/-- Below `2^63` an `int64` is its unsigned reading. -/
theorem toInt_eq_toNat_of_lt (hx : x.toNat < 2 ^ 63) : x.toInt = x.toNat := by
  rw [BitVec.toInt_eq_toNat_cond, if_pos (by omega)]

/-- Below `2^63`, `0 < d` on `int64` is `0 < d` on its unsigned reading. -/
theorem zero_slt_eq_of_lt (hx : x.toNat < 2 ^ 63) :
    (0 : BitVec 64).slt x = decide (0 < x.toNat) := by
  have h0 : (0 : BitVec 64).toInt = 0 := rfl
  simp only [BitVec.slt, h0, toInt_eq_toNat_of_lt hx, Int.ofNat_pos]

/-- A number below `2^63` stored in 64 bits reads back unchanged. -/
theorem toNat_ofNat_of_lt {k : Nat} (hk : k < 2 ^ 63) : (BitVec.ofNat 64 k).toNat = k :=
  Nat.mod_eq_of_lt (by omega)

/-- `if q := d / unit; q > 0 { d -= q * unit; write q and s }` on a duration below
    `2^63` writes the quotient of the numbers and leaves their remainder. -/
theorem peelUnit_eq (s : String) (hx : x.toNat < 2 ^ 63) (hu : 0 < u.toNat)
    (hu' : u.toNat < 2 ^ 63) :
    (if (0 : BitVec 64).slt (x.sdiv u) then (FormatInt (x.sdiv u).toInt ++ lit s, x - x.sdiv u * u)
      else ([], x)) =
    (if 0 < x.toNat / u.toNat then FormatUint (x.toNat / u.toNat) ++ lit s else [],
      BitVec.ofNat 64 (x.toNat % u.toNat)) := by
  have hq : (x.sdiv u).toNat = x.toNat / u.toNat := toNat_sdiv_of_lt hx hu'
  have hqlt : x.toNat / u.toNat < 2 ^ 63 := Nat.lt_of_le_of_lt (Nat.div_le_self _ _) hx
  have hdm := Nat.div_add_mod x.toNat u.toNat
  rw [zero_slt_eq_of_lt (hq ▸ hqlt), hq]
  by_cases h : 0 < x.toNat / u.toNat
  -- A positive quotient is written, and `d - q * unit` is the remainder: no wrap
  -- below `2^63`.
  · rw [decide_eq_true h, if_pos rfl, if_pos h, toInt_eq_toNat_of_lt (hq ▸ hqlt), hq]
    refine Prod.ext rfl (BitVec.eq_of_toNat_eq ?_)
    have hle : u.toNat * (x.toNat / u.toNat) ≤ x.toNat := Nat.mul_div_le x.toNat u.toNat
    rw [BitVec.toNat_sub, BitVec.toNat_mul, hq, BitVec.toNat_ofNat, Nat.mul_comm,
      Nat.mod_eq_of_lt (Nat.lt_of_le_of_lt hle (by omega))]
    omega
  -- A zero quotient writes nothing, and the duration is already its remainder.
  · rw [decide_eq_false h, if_neg Bool.false_ne_true, if_neg h]
    have hlt : x.toNat < u.toNat := (Nat.div_eq_zero_iff hu).mp (by omega)
    exact Prod.ext rfl (BitVec.eq_of_toNat_eq (by rw [BitVec.toNat_ofNat, Nat.mod_eq_of_lt hlt,
      Nat.mod_eq_of_lt (by omega)]))

/-- The day step divides by `time.Hour` and then by 24, which is one division by a day. -/
theorem peelDays_eq (hx : x.toNat < 2 ^ 63) :
    (if (0 : BitVec 64).slt ((x.sdiv 3600000000000).sdiv 24) then
        (FormatInt ((x.sdiv 3600000000000).sdiv 24).toInt ++ lit "D",
          x - (x.sdiv 3600000000000).sdiv 24 * 3600000000000 * 24)
      else ([], x)) =
    (if 0 < x.toNat / 86400000000000 then FormatUint (x.toNat / 86400000000000) ++ lit "D"
      else [], BitVec.ofNat 64 (x.toNat % 86400000000000)) := by
  have h1 : (x.sdiv 3600000000000).toNat = x.toNat / 3600000000000 :=
    toNat_sdiv_of_lt hx (by decide)
  -- Dividing by an hour and then by 24 truncates as dividing by a day does.
  have hday : (x.sdiv 3600000000000).sdiv 24 = x.sdiv 86400000000000 := by
    apply BitVec.eq_of_toNat_eq
    rw [toNat_sdiv_of_lt (by rw [h1]; omega) (by decide), h1, toNat_sdiv_of_lt hx (by decide),
      Nat.div_div_eq_div_mul]
    rfl
  rw [hday, BitVec.mul_assoc, show (3600000000000 : BitVec 64) * 24 = 86400000000000 from rfl]
  exact peelUnit_eq "D" hx (by decide) (by decide)

/-- Every `int64` but `-2^63` has a magnitude below `2^63`, so its negation does not wrap. -/
theorem natAbs_toInt_lt_of_ne_intMin {d : BitVec 64} (h : d ≠ BitVec.intMin 64) :
    d.toInt.natAbs < 2 ^ 63 := by
  have hmin : d.toNat ≠ 2 ^ 63 := fun e => h (BitVec.eq_of_toNat_eq (by rw [e]; rfl))
  have hd := BitVec.toInt_eq_toNat_cond d
  have hlt := d.isLt
  split at hd <;> omega

/-- `if d < 0 { write '-'; d = -d }` leaves the magnitude, except at `-2^63`. -/
theorem takeSign_eq {d : BitVec 64} (h : d ≠ BitVec.intMin 64) :
    (if d.slt 0 then (lit "-", -d) else ([], d)) =
      (if d.toInt < 0 then lit "-" else [], BitVec.ofNat 64 d.toInt.natAbs) := by
  have hmin : d.toNat ≠ 2 ^ 63 := fun e => h (BitVec.eq_of_toNat_eq (by rw [e]; rfl))
  have h0 : (0 : BitVec 64).toInt = 0 := rfl
  have hd := BitVec.toInt_eq_toNat_cond d
  have hlt := d.isLt
  simp only [BitVec.slt, h0]
  by_cases hn : d.toInt < 0
  -- A negative duration other than `-2^63` negates without a wrap.
  · rw [decide_eq_true hn, if_pos rfl, if_pos hn]
    refine Prod.ext rfl (BitVec.eq_of_toNat_eq ?_)
    rw [BitVec.toNat_neg, BitVec.toNat_ofNat]
    split at hd <;> omega
  -- A non-negative duration is its own magnitude.
  · rw [decide_eq_false hn, if_neg Bool.false_ne_true, if_neg hn]
    refine Prod.ext rfl (BitVec.eq_of_toNat_eq ?_)
    dsimp only
    rw [BitVec.toNat_ofNat]
    split at hd <;> omega

end Steps

/-! ## The whole rendering -/

section Render

variable (rt : Runtime)

/-- Away from `-2^63` the code computes the abstract rendering of its duration. -/
theorem intervalString_of_ne_intMin (v : BitVec 64) (h : IntervalToDuration v ≠ BitVec.intMin 64) :
    intervalString rt v = isoDuration rt (IntervalToDuration v).toInt := by
  -- The sign comes off, and the magnitude left is below `2^63`, where every step
  -- is exact.
  have hn := natAbs_toInt_lt_of_ne_intMin h
  unfold intervalString isoDuration
  simp only []
  rw [takeSign_eq h]
  simp only []
  generalize (IntervalToDuration v).toInt = d at hn ⊢
  have hH : (3600000000000 : BitVec 64).toNat = 3600000000000 := rfl
  have hM : (60000000000 : BitVec 64).toNat = 60000000000 := rfl
  have hday : (BitVec.ofNat 64 (d.natAbs % 86400000000000)).toNat = d.natAbs % 86400000000000 :=
    toNat_ofNat_of_lt (by omega)
  have hhour : (BitVec.ofNat 64 (d.natAbs % 86400000000000 % 3600000000000)).toNat =
      d.natAbs % 3600000000000 := by
    rw [Nat.mod_mod_of_dvd _ (by decide)]
    exact toNat_ofNat_of_lt (by omega)
  have hmin : (BitVec.ofNat 64 (d.natAbs % 60000000000)).toNat = d.natAbs % 60000000000 :=
    toNat_ofNat_of_lt (by omega)
  -- days, hours and minutes, each from the remainder the step before leaves
  rw [peelDays_eq (by rw [toNat_ofNat_of_lt hn]; omega)]
  simp only [toNat_ofNat_of_lt hn]
  rw [peelUnit_eq "H" (by rw [hday]; omega) (by decide) (by decide)]
  simp only [hday, hH]
  rw [peelUnit_eq "M" (by rw [hhour]; omega) (by decide) (by decide)]
  simp only [hhour, hM, Nat.mod_mod_of_dvd _ (show 60000000000 ∣ 3600000000000 by decide)]
  -- the `T` and the seconds test what is left against zero
  rw [zero_slt_eq_of_lt (by rw [hday]; omega), zero_slt_eq_of_lt (by rw [hmin]; omega), hday, hmin]
  simp only [decide_eq_true_eq]

/-- At `-2^63` the negation overflows, every later test fails, and only `-P` is written. -/
theorem intervalString_of_eq_intMin (v : BitVec 64) (h : IntervalToDuration v = BitVec.intMin 64) :
    intervalString rt v = lit "-P" := by
  unfold intervalString
  rw [h]
  rfl

/-- `intervalValue.toString` is the ISO 8601 rendering of its wrapped duration
    `IntervalToDuration v`, except at the one duration `-2^63`, whose negation overflows and
    which is rendered `-P`. -/
theorem intervalString_eq (v : BitVec 64) :
    intervalString rt v =
      if IntervalToDuration v = BitVec.intMin 64 then lit "-P"
      else isoDuration rt (IntervalToDuration v).toInt := by
  split
  · exact intervalString_of_eq_intMin rt v ‹_›
  · exact intervalString_of_ne_intMin rt v ‹_›

end Render

/-! ## The payload's own duration -/

/-- Within `⌊2^63 / 1000⌋` microseconds of zero, `time.Duration(n) * time.Microsecond`
    does not wrap. -/
theorem IntervalToDuration_toInt {v : BitVec 64} (h : v.toInt.natAbs ≤ 9223372036854775) :
    (IntervalToDuration v).toInt = v.toInt * 1000 := by
  have h1000 : (1000 : BitVec 64).toInt = 1000 := rfl
  rw [IntervalToDuration, BitVec.toInt_mul, h1000, Int.bmod_def]
  split <;> omega

/-- Within `⌊2^63 / 1000⌋` microseconds of zero, the rendering is the ISO 8601 duration of the
    payload itself: `v` microseconds, `1000 v` nanoseconds. -/
theorem intervalString_exact (rt : Runtime) (v : BitVec 64) (h : v.toInt.natAbs ≤ 9223372036854775) :
    intervalString rt v = isoDuration rt (v.toInt * 1000) := by
  have hd := IntervalToDuration_toInt h
  -- In range the duration is the payload's, so it is not `-2^63`.
  have hne : IntervalToDuration v ≠ BitVec.intMin 64 := fun e => by
    rw [e, BitVec.toInt_intMin] at hd
    omega
  rw [intervalString_of_ne_intMin rt v hne, hd]

/-- One day, one hour, one minute and a microsecond over a second, negated. -/
theorem intervalString_exact_day :
    (-90061000001 : BitVec 64).toInt.natAbs ≤ 9223372036854775 ∧
      intervalString Runtime.insertion (-90061000001) =
        isoDuration Runtime.insertion ((-90061000001 : BitVec 64).toInt * 1000) :=
  ⟨by decide, intervalString_exact Runtime.insertion (-90061000001) (by decide)⟩

/-! ## The payloads rendered `-P` -/

/-- `1000 · a mod 2^64` is eight times `125 · (a mod 2^61) mod 2^61`. -/
theorem mul_1000_mod_two_pow_64 (a : Nat) :
    a * 1000 % 2 ^ 64 = 2 ^ 3 * (a % 2 ^ 61 * 125 % 2 ^ 61) := by
  rw [Nat.mod_mul_mod, ← Nat.mul_mod_mul_left, show 2 ^ 3 * (a * 125) = a * 1000 by omega]
  rfl

/-- `time.Duration(v) * time.Microsecond` wraps to `-2^63` exactly when `v` is `2^60`
    modulo `2^61`. -/
theorem IntervalToDuration_eq_intMin_iff (v : BitVec 64) :
    IntervalToDuration v = BitVec.intMin 64 ↔ v.toNat % 2 ^ 61 = 2 ^ 60 := by
  have h1000 : (1000 : BitVec 64).toNat = 1000 := rfl
  have hmin : (BitVec.intMin 64).toNat = 2 ^ 63 := rfl
  rw [BitVec.toNat_eq, IntervalToDuration, BitVec.toNat_mul, hmin, h1000, mul_1000_mod_two_pow_64]
  have hr := Nat.mod_lt v.toNat (show 0 < 2 ^ 61 by decide)
  generalize v.toNat % 2 ^ 61 = r at hr ⊢
  constructor
  · intro h
    -- `125 · r` is `2^60` modulo `2^61`, so `2^60 ∣ 125 · r`, and `125` is odd
    have h60 : r * 125 % 2 ^ 61 = 2 ^ 60 := Nat.eq_of_mul_eq_mul_left (by decide) (h.trans rfl)
    have hdvd : 2 ^ 60 ∣ r * 125 := by
      rw [← Nat.div_add_mod (r * 125) (2 ^ 61), h60]
      exact Nat.dvd_add (Nat.dvd_trans (by decide) (Nat.dvd_mul_right _ _)) (Nat.dvd_refl _)
    obtain ⟨m, rfl⟩ :=
      (Nat.Coprime.pow_left 60 (by decide : Nat.Coprime 2 125)).dvd_of_dvd_mul_right hdvd
    -- `r < 2^61` leaves `m = 1`.
    rcases m with _ | _ | m
    · exact absurd h60 (by decide)
    · rfl
    · omega
  · rintro rfl
    rfl

/-- The abstract rendering never stops at `-P`: a negative duration has a part after it. -/
theorem isoDuration_ne_minusP (rt : Runtime) (d : Int) : isoDuration rt d ≠ lit "-P" := by
  intro h
  by_cases hd : d < 0
  · have hl := congrArg List.length h
    simp [isoDuration, hd, lit, apply_ite List.length] at hl
    omega
  · have hP := congrArg List.head? h
    simp [isoDuration, hd, lit] at hP
    exact absurd hP (by decide)

/-- An interval is rendered `-P` exactly when its payload is congruent to `2^60` modulo
    `2^61`, the payloads whose duration wraps to `-2^63`; positive payloads are among them. -/
theorem intervalString_eq_minusP_iff (rt : Runtime) (v : BitVec 64) :
    intervalString rt v = lit "-P" ↔ v.toNat % 2 ^ 61 = 2 ^ 60 := by
  by_cases h : IntervalToDuration v = BitVec.intMin 64
  · exact iff_of_true (intervalString_of_eq_intMin rt v h) ((IntervalToDuration_eq_intMin_iff v).mp h)
  · rw [intervalString_of_ne_intMin rt v h]
    exact iff_of_false (isoDuration_ne_minusP rt _) (mt (IntervalToDuration_eq_intMin_iff v).mpr h)

/-- `IntervalValue(1 << 60)`, a positive interval of about 36 533 years. -/
example : intervalString Runtime.insertion 0x1000000000000000 = lit "-P" := by decide

end YdbSdk
