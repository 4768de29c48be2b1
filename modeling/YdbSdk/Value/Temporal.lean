import YdbSdk.Value.Cast
import YdbSdk.Value.Construct

/-!
# Temporal Values Through `time.Time`

A Date, a Datetime and a Timestamp go to a `time.Time` by `castTo` into a
`*time.Time`, and come back by `DateValueFromTime`, `DatetimeValueFromTime`
and `TimestampValueFromTime`. The way there is exact. The way back goes through
`t.Sub(epoch)`, an `int64` of nanoseconds that Go saturates at its ends,
divides it as `int64`s, reads the quotient as a `uint64` and narrows a Date and a
Datetime to `uint32`; any of these could lose the instant.

None of them does between the epoch and 2106-01-01T00:00:00Z (`rangeEnd`), the
range the three types share: there the nanoseconds stay below `2^63` and the
day and second counts below `2^32`. So in that range each constructor is the
plain count of its unit (`DateValueFromTime_eq` and the two beside it), a payload
comes back unchanged, and a `time.Time` comes back truncated to the type's
unit: the UTC day, the second, the microsecond.

A truncation is stated by whole nanoseconds since the epoch (`GoTime.truncate`).
Go's `t.Truncate(d)` counts from its zero time instead, a whole number of days
before the epoch, so for these three units the two agree.

## Main definitions

* `rangeEnd`: The end of the supported range, in seconds since the epoch.
* `GoTime.ofNanos`, `GoTime.truncate`: An instant by its nanoseconds since the
  epoch, and an instant rounded down to a whole number of a unit.

## Theorems

* `DateValueFromTime_eq`, `DatetimeValueFromTime_eq`, `TimestampValueFromTime_eq`:
  In range, each constructor counts whole days, seconds or microseconds (a
  Datetime needs only an instant after the epoch).
* `castTo_DateValueFromTime` and the two beside it: An instant in range comes
  back truncated to the type's unit.
* `DateValueFromTime_DateToTime` and the two beside it: A payload in range comes
  back from its instant unchanged.
* `temporal_roundTrip`: Both directions together.
-/

namespace YdbSdk

/-- 2106-01-01T00:00:00Z in seconds since the epoch: the end of the range the
    temporal types share. -/
def rangeEnd : Int := 4291747200

/-- The instant `n` nanoseconds after the epoch. -/
def GoTime.ofNanos (n : Int) : GoTime := ⟨n / 1000000000, (n % 1000000000).toNat, by omega⟩

/-- `t` rounded down to a whole number of `unit` nanoseconds since the epoch. -/
def GoTime.truncate (t : GoTime) (unit : Nat) : GoTime :=
  GoTime.ofNanos ((t.sec * 1000000000 + t.nsec) / unit * unit)

/-- Truncating to a day is the UTC midnight before. -/
theorem GoTime.truncate_day (t : GoTime) :
    t.truncate 86400000000000 = GoTime.unix (t.sec / 86400 * 86400) := by
  have hn := t.nsec_lt
  simp only [GoTime.truncate, GoTime.ofNanos, GoTime.unix, GoTime.mk.injEq, Nat.cast_ofNat]
  omega

/-- Truncating to a second drops the nanoseconds. -/
theorem GoTime.truncate_second (t : GoTime) : t.truncate 1000000000 = GoTime.unix t.sec := by
  have hn := t.nsec_lt
  simp only [GoTime.truncate, GoTime.ofNanos, GoTime.unix, GoTime.mk.injEq, Nat.cast_ofNat]
  omega

/-- Truncating to a microsecond rounds the nanoseconds down to a thousand. -/
theorem GoTime.truncate_microsecond (t : GoTime) :
    t.truncate 1000 =
      ⟨t.sec, t.nsec / 1000 * 1000,
        Nat.lt_of_le_of_lt (Nat.div_mul_le_self _ _) t.nsec_lt⟩ := by
  have hn := t.nsec_lt
  simp only [GoTime.truncate, GoTime.ofNanos, GoTime.mk.injEq, Nat.cast_ofNat]
  omega

section InRange

variable (t : GoTime) (h0 : 0 ≤ t.sec) (h1 : t.sec < rangeEnd)
include h0 h1

/-- In range, `DateValueFromTime` stores the whole days since the epoch. -/
theorem DateValueFromTime_eq :
    DateValueFromTime t = .scalar (.dateValue (BitVec.ofNat 32 (t.sec / 86400).toNat)) := by
  obtain ⟨s, hs⟩ := Int.eq_ofNat_of_zero_le h0
  have hn := t.nsec_lt
  unfold rangeEnd at h1
  -- In range, `t.Sub(epoch)` is exact: its nanoseconds since the epoch.
  have hsub : (t.Sub epoch).toNat = s * 1000000000 + t.nsec := by
    rw [GoTime.toNat_Sub_epoch t h0 (by omega), hs]; rfl
  unfold DateValueFromTime
  congr 2
  apply BitVec.eq_of_toNat_eq
  rw [BitVec.toNat_setWidth, BitVec.toNat_udiv, toNat_sdiv_of_lt (by omega) (by decide), hsub, hs]
  simp only [toNat_Second, toNat_secondsPerDay, BitVec.toNat_ofNat]
  -- The nanoseconds are less than a second, so the seconds are `s`.
  rw [Nat.add_comm, Nat.add_mul_div_right _ _ (by decide), Nat.div_eq_of_lt hn, Nat.zero_add]
  rfl

omit h1 in
/-- From the epoch on, `DatetimeValueFromTime` stores the seconds since the epoch. -/
theorem DatetimeValueFromTime_eq :
    DatetimeValueFromTime t = .scalar (.datetimeValue (BitVec.ofNat 32 t.sec.toNat)) := by
  obtain ⟨s, hs⟩ := Int.eq_ofNat_of_zero_le h0
  unfold DatetimeValueFromTime
  congr 2
  apply BitVec.eq_of_toNat_eq
  rw [BitVec.toNat_setWidth, GoTime.Unix, BitVec.toNat_ofInt, hs, BitVec.toNat_ofNat]
  exact Nat.mod_mod_of_dvd s (by decide)

/-- In range, `TimestampValueFromTime` stores the whole microseconds since the epoch. -/
theorem TimestampValueFromTime_eq :
    TimestampValueFromTime t =
      .scalar (.timestampValue (BitVec.ofNat 64 (t.sec * 1000000 + t.nsec / 1000).toNat)) := by
  obtain ⟨s, hs⟩ := Int.eq_ofNat_of_zero_le h0
  have hn := t.nsec_lt
  unfold rangeEnd at h1
  -- In range, `t.Sub(epoch)` is exact: its nanoseconds since the epoch.
  have hsub : (t.Sub epoch).toNat = s * 1000000000 + t.nsec := by
    rw [GoTime.toNat_Sub_epoch t h0 (by omega), hs]; rfl
  unfold TimestampValueFromTime
  congr 2
  apply BitVec.eq_of_toNat_eq
  -- Dividing by a microsecond leaves the whole microseconds of the seconds and of
  -- the nanoseconds.
  rw [toNat_sdiv_of_lt (by omega) (by decide), hsub, hs, BitVec.toNat_ofNat, toNat_Microsecond,
    show ((s : Int) * 1000000 + (t.nsec : Int) / 1000).toNat = s * 1000000 + t.nsec / 1000 from rfl,
    Nat.mod_eq_of_lt (by omega), show s * 1000000000 = s * 1000000 * 1000 by rw [Nat.mul_assoc],
    Nat.add_comm, Nat.add_mul_div_right _ _ (by decide), Nat.add_comm]

variable (rt : Runtime)

/-- An instant in range comes back from a Date as its UTC midnight. -/
theorem castTo_DateValueFromTime :
    (DateValueFromTime t).castTo rt .time = .ok (.time (t.truncate 86400000000000)) := by
  rw [DateValueFromTime_eq t h0 h1, GoTime.truncate_day]
  obtain ⟨s, hs⟩ := Int.eq_ofNat_of_zero_le h0
  unfold rangeEnd at h1
  show (.ok (.time (GoTime.unix ((BitVec.ofNat 32 (t.sec / 86400).toNat).toNat * 86400))) :
    Result Written) = _
  rw [BitVec.toNat_ofNat, hs, show ((s : Int) / 86400).toNat = s / 86400 from rfl,
    Nat.mod_eq_of_lt (by omega)]
  rfl

/-- An instant in range comes back from a Datetime as its whole second. -/
theorem castTo_DatetimeValueFromTime :
    (DatetimeValueFromTime t).castTo rt .time = .ok (.time (t.truncate 1000000000)) := by
  rw [DatetimeValueFromTime_eq t h0, GoTime.truncate_second]
  obtain ⟨s, hs⟩ := Int.eq_ofNat_of_zero_le h0
  unfold rangeEnd at h1
  show (.ok (.time (GoTime.unix (BitVec.ofNat 32 t.sec.toNat).toNat)) : Result Written) = _
  rw [BitVec.toNat_ofNat, hs, Int.toNat_ofNat, Nat.mod_eq_of_lt (by omega)]

/-- An instant in range comes back from a Timestamp as its whole microsecond. -/
theorem castTo_TimestampValueFromTime :
    (TimestampValueFromTime t).castTo rt .time = .ok (.time (t.truncate 1000)) := by
  rw [TimestampValueFromTime_eq t h0 h1, GoTime.truncate_microsecond]
  obtain ⟨_, n, hn⟩ := t
  obtain ⟨s, rfl⟩ := Int.eq_ofNat_of_zero_le h0
  -- In range, the microseconds fit in 64 bits, and truncating the instant keeps
  -- the same microseconds.
  replace h1 : (s : Int) < 4291747200 := h1
  show (.ok (.time (TimestampToTime (BitVec.ofNat 64 (s * 1000000 + n / 1000)))) :
    Result Written) = _
  simp only [TimestampToTime, BitVec.toNat_ofNat, Except.ok.injEq, Written.time.injEq,
    GoTime.mk.injEq]
  rw [Nat.mod_eq_of_lt (by omega)]
  omega

end InRange

/-- A Date payload in range comes back from its instant unchanged. -/
theorem DateValueFromTime_DateToTime (d : BitVec 32) (hd : d.toNat * 86400 < rangeEnd) :
    DateValueFromTime (DateToTime d) = .scalar (.dateValue d) := by
  rw [DateValueFromTime_eq (DateToTime d) (Int.ofNat_zero_le _)
    (show ((d.toNat * 86400 : Nat) : Int) < rangeEnd by push_cast; exact hd)]
  show Value.scalar
    (.dateValue (BitVec.ofNat 32 ((d.toNat * 86400 : Nat) / (86400 : Nat) : Int).toNat)) = _
  rw [← Int.ofNat_ediv, Nat.mul_div_cancel _ (by decide), Int.toNat_ofNat, BitVec.ofNat_toNat,
    BitVec.setWidth_eq]

/-- A Datetime payload comes back from its instant unchanged. -/
theorem DatetimeValueFromTime_DatetimeToTime (s : BitVec 32) :
    DatetimeValueFromTime (DatetimeToTime s) = .scalar (.datetimeValue s) := by
  rw [DatetimeValueFromTime_eq (DatetimeToTime s) (Int.ofNat_zero_le _)]
  show Value.scalar (.datetimeValue (BitVec.ofNat 32 (s.toNat : Int).toNat)) = _
  rw [Int.toNat_ofNat, BitVec.ofNat_toNat, BitVec.setWidth_eq]

/-- A Timestamp payload in range comes back from its instant unchanged. -/
theorem TimestampValueFromTime_TimestampToTime (u : BitVec 64) (hu : u.toNat < rangeEnd * 1000000) :
    TimestampValueFromTime (TimestampToTime u) = .scalar (.timestampValue u) := by
  unfold rangeEnd at hu
  rw [TimestampValueFromTime_eq (TimestampToTime u) (Int.ofNat_zero_le _)
    (by show ((u.toNat / 1000000 : Nat) : Int) < 4291747200; omega)]
  show Value.scalar (.timestampValue (BitVec.ofNat 64
    (((u.toNat / 1000000 : Nat) : Int) * (1000000 : Nat) +
      ((u.toNat % 1000000 * 1000 / 1000 : Nat) : Int)).toNat)) = _
  rw [← Int.ofNat_mul, ← Int.ofNat_add, Int.toNat_ofNat, Nat.mul_div_cancel _ (by decide),
    Nat.div_add_mod', BitVec.ofNat_toNat, BitVec.setWidth_eq]

variable (rt : Runtime)

/-- Within the supported range, a Date, Datetime or Timestamp payload cast to a
    `time.Time` and passed to its `...ValueFromTime` comes back unchanged, and a
    `time.Time` passed to `...ValueFromTime` and cast back comes back truncated to
    the UTC day, the second or the microsecond. -/
theorem temporal_roundTrip :
    (∀ d : BitVec 32, d.toNat * 86400 < rangeEnd → ∃ t,
      (Value.scalar (.dateValue d)).castTo rt .time = .ok (.time t) ∧
        DateValueFromTime t = .scalar (.dateValue d)) ∧
    (∀ s : BitVec 32, s.toNat < rangeEnd → ∃ t,
      (Value.scalar (.datetimeValue s)).castTo rt .time = .ok (.time t) ∧
        DatetimeValueFromTime t = .scalar (.datetimeValue s)) ∧
    (∀ u : BitVec 64, u.toNat < rangeEnd * 1000000 → ∃ t,
      (Value.scalar (.timestampValue u)).castTo rt .time = .ok (.time t) ∧
        TimestampValueFromTime t = .scalar (.timestampValue u)) ∧
    (∀ t : GoTime, 0 ≤ t.sec → t.sec < rangeEnd →
      (DateValueFromTime t).castTo rt .time = .ok (.time (t.truncate 86400000000000)) ∧
      (DatetimeValueFromTime t).castTo rt .time = .ok (.time (t.truncate 1000000000)) ∧
      (TimestampValueFromTime t).castTo rt .time = .ok (.time (t.truncate 1000))) :=
  ⟨fun d hd => ⟨_, rfl, DateValueFromTime_DateToTime d hd⟩,
    fun s _ => ⟨_, rfl, DatetimeValueFromTime_DatetimeToTime s⟩,
    fun u hu => ⟨_, rfl, TimestampValueFromTime_TimestampToTime u hu⟩,
    fun t h0 h1 => ⟨castTo_DateValueFromTime t h0 h1 rt, castTo_DatetimeValueFromTime t h0 h1 rt,
      castTo_TimestampValueFromTime t h0 h1 rt⟩⟩

/-- 2024-01-01T12:34:56.789123456Z, and its day, second and microsecond counts. -/
theorem temporal_roundTrip_2024 :
    (∃ t, (Value.scalar (.dateValue 19723)).castTo .insertion .time = .ok (.time t) ∧
      DateValueFromTime t = .scalar (.dateValue 19723)) ∧
    (∃ t, (Value.scalar (.datetimeValue 1704112496)).castTo .insertion .time = .ok (.time t) ∧
      DatetimeValueFromTime t = .scalar (.datetimeValue 1704112496)) ∧
    (∃ t, (Value.scalar (.timestampValue 1704112496789123)).castTo .insertion .time =
        .ok (.time t) ∧
      TimestampValueFromTime t = .scalar (.timestampValue 1704112496789123)) ∧
    ((DateValueFromTime ⟨1704112496, 789123456, by decide⟩).castTo .insertion .time =
        .ok (.time (GoTime.truncate ⟨1704112496, 789123456, by decide⟩ 86400000000000)) ∧
      (DatetimeValueFromTime ⟨1704112496, 789123456, by decide⟩).castTo .insertion .time =
        .ok (.time (GoTime.truncate ⟨1704112496, 789123456, by decide⟩ 1000000000)) ∧
      (TimestampValueFromTime ⟨1704112496, 789123456, by decide⟩).castTo .insertion .time =
        .ok (.time (GoTime.truncate ⟨1704112496, 789123456, by decide⟩ 1000))) :=
  ⟨(temporal_roundTrip .insertion).1 _ (by decide),
    (temporal_roundTrip .insertion).2.1 _ (by decide),
    (temporal_roundTrip .insertion).2.2.1 _ (by decide),
    (temporal_roundTrip .insertion).2.2.2 _ (by decide) (by decide)⟩

end YdbSdk
