import YdbSdk.Value.Render

/-!
# Casting Values

`castTo(dst)`, transcribed from `value.go`. The destination is a pointer whose
dynamic type selects the case, so it is a `Dst` here: that type, and whether the
pointer is nil. What the method stores through the pointer is a `Written` of
the matching kind. A destination the value does not accept gives the error
`cannot cast '<v>' to '<%T>' destination`, where `<v>` is what `%+v` prints:
`v.String()`, or, when that panics (a decimal's rendering can), the panic as
`fmt` reports it.

Every accepting case is `*vv = ...; return nil`. A typed nil such as
`(*bool)(nil)` selects its type's case like a live pointer, so the store
dereferences nil and panics; the refusal only prints `%T`, which is the same for
a nil pointer.

The stores are Go's conversions: `intN(v)` of a signed `v` is `signExtend`,
`intN(v)` or `uintN(v)` of an unsigned one is `setWidth`; both keep the low `N`
bits, so a narrowing store changes the number. Every integer store widens but
one, a `Date` into `*int32`, so that is the one integer cast that can change the
number; the decimal renderings go through `int64(v)`, which changes a `uint64`
from `2^63` up. The float conversions and renderings are the runtime's.

An optional delegates to its payload, a one-element tuple to its element, and a
variant to its inner tuple or struct; every other container refuses.

## Main definitions

* `PtrType`: The pointer types the switches test.
* `Dst`: A destination pointer, live or nil.
* `Written`: What a successful cast stores.
* `Scalar.stores`: The cases of a scalar's `switch`, without its `default`.
* `Scalar.castTo`, `Value.castTo`: `v.castTo(dst)`.
* `Scalar.integer`, `Written.integer`: The number an integer value holds, and
  the one an integer destination receives.

## Theorems

* `Scalar.castTo_eq_ok`: A scalar's cast stores what its `switch` case gives, through a
  pointer that is not nil.
* `Scalar.castTo_error`: A scalar fails with the refusal naming it and the destination, or
  on the store through a nil pointer.
* `Scalar.castTo_integer`: Integer casts keep the number, but for `Date` into `*int32`.
* `Scalar.castTo_string_integer`: Integer renderings are exact, but for `uint64` from `2^63`.
* `Value.castTo_typedNil`: Through a typed nil a cast panics where it would store;
  through a live pointer no cast panics.
* `Value.castTo_uint64_two_pow_63`: `uint64(2^63)` renders as a negative number.
-/

namespace YdbSdk

open GoString

/-- The pointer types `castTo` switches on. -/
inductive PtrType where
  | bool | string | bytes | int8 | int16 | int32 | int64 | uint8 | uint16 | uint32 | uint64
  | float32 | float64 | time | duration | bytes16
  /-- Any other pointer type, by its `%T`; no case accepts it. -/
  | other (goType : String)
  deriving DecidableEq, Repr

/-- The pointer type as `%T` prints it. -/
def PtrType.goType : PtrType → String
  | bool => "*bool" | string => "*string" | bytes => "*[]uint8" | int8 => "*int8"
  | int16 => "*int16" | int32 => "*int32" | int64 => "*int64" | uint8 => "*uint8"
  | uint16 => "*uint16" | uint32 => "*uint32" | uint64 => "*uint64" | float32 => "*float32"
  | float64 => "*float64" | time => "*time.Time" | duration => "*time.Duration"
  | bytes16 => "*[16]uint8" | other t => t

/-- The destination pointer: its dynamic type, which selects the `switch` case,
    and whether it is nil. A typed nil such as `(*bool)(nil)` still selects its
    type's case; the case's store `*vv = ...` then dereferences nil. -/
structure Dst where
  type : PtrType
  isNil : Bool
  deriving DecidableEq, Repr

namespace Dst

/-- A pointer of type `t` to a variable, as `&x` or `new(T)` gives it. -/
def live (t : PtrType) : Dst := ⟨t, false⟩

/-- The typed nil pointer `(*T)(nil)` of type `t`. -/
def nil (t : PtrType) : Dst := ⟨t, true⟩

/-- A live pointer has the type it was made with. -/
@[simp] theorem live_type (t : PtrType) : (live t).type = t := rfl
/-- A live pointer is not nil. -/
@[simp] theorem live_isNil (t : PtrType) : (live t).isNil = false := rfl
/-- A typed nil has the type it was made with. -/
@[simp] theorem nil_type (t : PtrType) : (nil t).type = t := rfl
/-- A typed nil is nil. -/
@[simp] theorem nil_isNil (t : PtrType) : (nil t).isNil = true := rfl

/-! A live pointer of each type the switches test, as callers pass them (`&b`
for a `b bool`, and so on). -/

def bool : Dst := live .bool
def string : Dst := live .string
def bytes : Dst := live .bytes
def int8 : Dst := live .int8
def int16 : Dst := live .int16
def int32 : Dst := live .int32
def int64 : Dst := live .int64
def uint8 : Dst := live .uint8
def uint16 : Dst := live .uint16
def uint32 : Dst := live .uint32
def uint64 : Dst := live .uint64
def float32 : Dst := live .float32
def float64 : Dst := live .float64
def time : Dst := live .time
def duration : Dst := live .duration
def bytes16 : Dst := live .bytes16

/-- The destination's type as `%T` prints it; a typed nil prints its type. -/
def goType (dst : Dst) : String := dst.type.goType

end Dst

/-- What `castTo` stores through the destination pointer. Floats are their bits,
    a `time.Duration` its `int64` of nanoseconds. -/
inductive Written where
  | bool (v : Bool)
  | string (v : GoString)
  | bytes (v : List UInt8)
  | int8 (v : BitVec 8)
  | int16 (v : BitVec 16)
  | int32 (v : BitVec 32)
  | int64 (v : BitVec 64)
  | uint8 (v : BitVec 8)
  | uint16 (v : BitVec 16)
  | uint32 (v : BitVec 32)
  | uint64 (v : BitVec 64)
  | float32 (v : BitVec 32)
  | float64 (v : BitVec 64)
  | time (v : GoTime)
  | duration (v : BitVec 64)
  | bytes16 (v : Bytes16)

/-- An ASCII rendering of a Go string for an error message. -/
def GoString.text (s : GoString) : String := String.mk (s.map fun b => Char.ofNat b.toNat)

/-- `fmt.Errorf("cannot cast '%+v' to '%T' destination", v, dst)` given `v`'s rendering. -/
def castFault (rendered : GoString) (dst : Dst) : Fault :=
  .error ("cannot cast '" ++ rendered.text ++ "' to '" ++ dst.goType ++ "' destination")

/-- The integer an integer destination receives (`*time.Duration` apart, whose
    unit is not the value's). -/
def Written.integer : Written → Option Int
  | int8 v => some v.toInt
  | int16 v => some v.toInt
  | int32 v => some v.toInt
  | int64 v => some v.toInt
  | uint8 v => some v.toNat
  | uint16 v => some v.toNat
  | uint32 v => some v.toNat
  | uint64 v => some v.toNat
  | _ => none

/-- Sign extension to a width at least as large keeps the signed number. -/
theorem toInt_signExtend_of_le {w v : Nat} (x : BitVec w) (h : w ≤ v) :
    (x.signExtend v).toInt = x.toInt := by
  have hx := x.isLt
  have hp : 2 ^ w ≤ 2 ^ v := Nat.pow_le_pow_right (by decide) h
  rcases hm : x.msb
  -- A non-negative number: sign extension is zero extension, which keeps it.
  · have := BitVec.msb_eq_false_iff_two_mul_lt.mp hm
    rw [BitVec.signExtend_eq_not_setWidth_not_of_msb_false hm]
    simp only [BitVec.toInt_eq_toNat_cond, BitVec.toNat_setWidth, Nat.mod_eq_of_lt (by omega : x.toNat < 2 ^ v)]
    split <;> omega
  -- A negative number: sign extension sets the new top bits, which keeps it as well.
  · have := BitVec.msb_eq_true_iff_two_mul_ge.mp hm
    rw [BitVec.signExtend_eq_not_setWidth_not_of_msb_true hm]
    simp only [BitVec.toInt_eq_toNat_cond, BitVec.toNat_not, BitVec.toNat_setWidth,
      Nat.mod_eq_of_lt (by omega : 2 ^ w - 1 - x.toNat < 2 ^ v)]
    split <;> split <;> omega

/-- A bit vector read as a signed number is its unsigned number, or, when its
    top bit is set, that less `2^w`. -/
theorem toInt_eq_or (x : BitVec w) :
    x.toInt = x.toNat ∨ 2 ^ w ≤ 2 * x.toNat ∧ x.toInt = x.toNat - 2 ^ w := by
  rw [BitVec.toInt_eq_toNat_cond]
  split
  · exact .inl rfl
  · exact .inr ⟨by omega, by rw [Int.natCast_pow]; rfl⟩

/-- Zero extension to a width at least as large keeps the unsigned number. -/
theorem toNat_setWidth_of_le {w v : Nat} (x : BitVec w) (h : w ≤ v) : (x.setWidth v).toNat = x.toNat := by
  rw [← BitVec.setWidth'_eq h, BitVec.toNat_setWidth']

/-- Zero extension to a wider width reads, as a signed number, the unsigned one. -/
theorem toInt_setWidth_of_lt {w v : Nat} (x : BitVec w) (h : w < v) : (x.setWidth v).toInt = x.toNat := by
  have hp : 2 ^ (w + 1) ≤ 2 ^ v := Nat.pow_le_pow_right (by decide) h
  have := x.isLt
  rw [BitVec.toInt_eq_toNat_cond, toNat_setWidth_of_le x h.le, if_pos (by rw [Nat.pow_succ] at hp; omega)]

/-- Go's panic for a store through a nil pointer. -/
def nilDerefPanic : Fault :=
  .panic "runtime error: invalid memory address or nil pointer dereference"

namespace Scalar

variable (rt : Runtime)

/-- The cases of `v.castTo(dst)`'s `switch`, one per kind: what the method
    stores through a destination of a type it accepts. -/
def stores (v : Scalar) (dst : PtrType) : Option Written :=
  match v with
  | boolValue b => match dst with
    | .bool => some (.bool b)
    | .string => some (.string (lit (if b then "true" else "false")))
    | _ => none
  | dateValue d => match dst with
    | .time => some (.time (DateToTime d))
    | .uint64 => some (.uint64 (d.setWidth 64))
    | .int64 => some (.int64 (d.setWidth 64))
    | .int32 => some (.int32 (d.setWidth 32))
    | _ => none
  | datetimeValue d => match dst with
    | .time => some (.time (DatetimeToTime d))
    | .uint64 => some (.uint64 (d.setWidth 64))
    | .int64 => some (.int64 (d.setWidth 64))
    | .uint32 => some (.uint32 (d.setWidth 32))
    | _ => none
  | doubleValue f => match dst with
    | .string => some (.string (rt.formatFloatF64 f))
    | .bytes => some (.bytes (rt.formatFloatF64 f))
    | .float64 => some (.float64 f)
    | _ => none
  | floatValue f => match dst with
    | .string => some (.string (rt.formatFloatF32 f))
    | .bytes => some (.bytes (rt.formatFloatF32 f))
    | .float64 => some (.float64 (rt.float64OfFloat32 f))
    | .float32 => some (.float32 f)
    | _ => none
  | int8Value n => match dst with
    | .string => some (.string (FormatInt (n.signExtend 64).toInt))
    | .bytes => some (.bytes (FormatInt (n.signExtend 64).toInt))
    | .int64 => some (.int64 (n.signExtend 64))
    | .int32 => some (.int32 (n.signExtend 32))
    | .int16 => some (.int16 (n.signExtend 16))
    | .int8 => some (.int8 n)
    | .float64 => some (.float64 (rt.float64OfInt n.toInt))
    | .float32 => some (.float32 (rt.float32OfInt n.toInt))
    | _ => none
  | int16Value n => match dst with
    | .string => some (.string (FormatInt (n.signExtend 64).toInt))
    | .bytes => some (.bytes (FormatInt (n.signExtend 64).toInt))
    | .int64 => some (.int64 (n.signExtend 64))
    | .int32 => some (.int32 (n.signExtend 32))
    | .int16 => some (.int16 n)
    | .float64 => some (.float64 (rt.float64OfInt n.toInt))
    | .float32 => some (.float32 (rt.float32OfInt n.toInt))
    | _ => none
  | int32Value n => match dst with
    | .string => some (.string (FormatInt (n.signExtend 64).toInt))
    | .bytes => some (.bytes (FormatInt (n.signExtend 64).toInt))
    | .int64 => some (.int64 (n.signExtend 64))
    | .int32 => some (.int32 n)
    | .float64 => some (.float64 (rt.float64OfInt n.toInt))
    | .float32 => some (.float32 (rt.float32OfInt n.toInt))
    | _ => none
  | int64Value n => match dst with
    | .string => some (.string (FormatInt n.toInt))
    | .bytes => some (.bytes (FormatInt n.toInt))
    | .int64 => some (.int64 n)
    | .float64 => some (.float64 (rt.float64OfInt n.toInt))
    | _ => none
  | intervalValue n => match dst with
    | .duration => some (.duration (IntervalToDuration n))
    | .int64 => some (.int64 n)
    | _ => none
  | timestampValue n => match dst with
    | .time => some (.time (TimestampToTime n))
    | .uint64 => some (.uint64 n)
    | _ => none
  | uint8Value n => match dst with
    | .string => some (.string (FormatInt (n.setWidth 64).toInt))
    | .bytes => some (.bytes (FormatInt (n.setWidth 64).toInt))
    | .uint64 => some (.uint64 (n.setWidth 64))
    | .int64 => some (.int64 (n.setWidth 64))
    | .uint32 => some (.uint32 (n.setWidth 32))
    | .int32 => some (.int32 (n.setWidth 32))
    | .uint16 => some (.uint16 (n.setWidth 16))
    | .int16 => some (.int16 (n.setWidth 16))
    | .uint8 => some (.uint8 n)
    | .float64 => some (.float64 (rt.float64OfInt n.toNat))
    | .float32 => some (.float32 (rt.float32OfInt n.toNat))
    | _ => none
  | uint16Value n => match dst with
    | .string => some (.string (FormatInt (n.setWidth 64).toInt))
    | .bytes => some (.bytes (FormatInt (n.setWidth 64).toInt))
    | .uint64 => some (.uint64 (n.setWidth 64))
    | .int64 => some (.int64 (n.setWidth 64))
    | .uint32 => some (.uint32 (n.setWidth 32))
    | .int32 => some (.int32 (n.setWidth 32))
    | .uint16 => some (.uint16 n)
    | .float32 => some (.float32 (rt.float32OfInt n.toNat))
    | .float64 => some (.float64 (rt.float64OfInt n.toNat))
    | _ => none
  | uint32Value n => match dst with
    | .string => some (.string (FormatInt (n.setWidth 64).toInt))
    | .bytes => some (.bytes (FormatInt (n.setWidth 64).toInt))
    | .uint64 => some (.uint64 (n.setWidth 64))
    | .int64 => some (.int64 (n.setWidth 64))
    | .uint32 => some (.uint32 n)
    | .float64 => some (.float64 (rt.float64OfInt n.toNat))
    | _ => none
  | uint64Value n => match dst with
    | .string => some (.string (FormatInt n.toInt))
    | .bytes => some (.bytes (FormatInt n.toInt))
    | .uint64 => some (.uint64 n)
    | _ => none
  | uuidValue b => match dst with
    | .string => some (.string b.bytes)
    | .bytes => some (.bytes b.bytes)
    | .bytes16 => some (.bytes16 b)
    | _ => none
  | dyNumberValue s | jsonValue s | jsonDocumentValue s | tzDateValue s | tzDatetimeValue s
  | tzTimestampValue s | textValue s | ysonValue s | bytesValue s => match dst with
    | .string => some (.string s)
    | .bytes => some (.bytes s)
    | _ => none

/-- `v.castTo(dst)` for the scalar kinds: a case of the `switch`, whose store
    `*vv = ...` panics through a nil `vv`, or its `default`, which refuses the
    destination without touching it. -/
def castTo (v : Scalar) (dst : Dst) : Result Written :=
  match v.stores rt dst.type with
  | some w => if dst.isNil then .error nilDerefPanic else .ok w
  | none => .error (castFault (v.stringWrap rt (v.toString rt)) dst)

/-- A scalar's cast succeeds exactly with what its `switch` stores, through a
    pointer that is not nil. -/
theorem castTo_eq_ok {v : Scalar} {dst : Dst} {w : Written} :
    v.castTo rt dst = .ok w ↔ dst.isNil = false ∧ v.stores rt dst.type = some w := by
  unfold castTo
  split
  · cases dst.isNil <;> simp [*]
  · simp [*]

/-- A scalar's cast fails by refusing the destination, with the error that
    quotes the value's `String()` and names the destination's type, or by the
    store through a nil destination. -/
theorem castTo_error {v : Scalar} {dst : Dst} {f : Fault} (h : v.castTo rt dst = .error f) :
    f = castFault (v.stringWrap rt (v.toString rt)) dst ∨ dst.isNil ∧ f = nilDerefPanic := by
  unfold castTo at h
  split at h
  · cases hn : dst.isNil <;>
      simp only [hn, Bool.false_eq_true, ↓reduceIte, reduceCtorEq, Except.error.injEq] at h
    exact .inr ⟨rfl, h.symm⟩
  · cases h
    exact .inl rfl

/-- Through a typed nil a scalar's cast panics where it would store and refuses
    where it would refuse; through a live pointer it never panics. -/
theorem castTo_nil (v : Scalar) (t : PtrType) :
    (∀ w, v.castTo rt (.live t) = .ok w → v.castTo rt (.nil t) = .error nilDerefPanic) ∧
    (∀ f, v.castTo rt (.live t) = .error f → v.castTo rt (.nil t) = .error f) ∧
    ∀ msg, v.castTo rt (.live t) ≠ .error (.panic msg) := by
  simp only [castTo, Dst.live_type, Dst.nil_type, Dst.live_isNil, Dst.nil_isNil]
  cases v.stores rt t <;> simp [castFault, Dst.goType]

/-- The integer a scalar of an integer kind holds: the signed kinds and
    `Interval` in two's complement, the unsigned kinds and the day, second and
    microsecond counts of `Date`, `Datetime` and `Timestamp` unsigned. -/
def integer : Scalar → Option Int
  | int8Value n => some n.toInt
  | int16Value n => some n.toInt
  | int32Value n => some n.toInt
  | int64Value n | intervalValue n => some n.toInt
  | uint8Value n => some n.toNat
  | uint16Value n => some n.toNat
  | dateValue n | datetimeValue n | uint32Value n => some n.toNat
  | uint64Value n | timestampValue n => some n.toNat
  | _ => none

/-- A cast into an integer destination stores the value's own number, except a
    `Date` past `2^31 - 1` days stored into `*int32`, which comes out `2^32` less. -/
theorem castTo_integer (v : Scalar) (dst : Dst) (w : Written) (h : v.castTo rt dst = .ok w)
    (hw : w.integer.isSome) :
    w.integer = v.integer ∨
      ∃ d, v = dateValue d ∧ dst = .int32 ∧ 2 ^ 31 ≤ d.toNat ∧ w.integer = some (d.toNat - 2 ^ 32 : Int) := by
  -- A cast that stores went through a live pointer, by a case of the `switch`.
  obtain ⟨t, n⟩ := dst
  obtain ⟨rfl, h⟩ := (castTo_eq_ok rt).mp h
  cases v <;> cases t <;> cases h <;> cases hw
  -- `int32(d)` of a day count from `2^31` on reads as negative.
  case dateValue.int32.refl.refl d =>
    rw [Written.integer, BitVec.setWidth_eq]
    rcases toInt_eq_or d with h | ⟨h2, h⟩
    · exact .inl (congrArg some h)
    · exact .inr ⟨d, rfl, rfl, by omega, congrArg some h⟩
  -- Every other integer store widens, signed by sign extension and unsigned by zero
  -- extension, and keeps the number.
  all_goals exact .inl (by simp (disch := decide) only [Written.integer, integer,
    toInt_signExtend_of_le, toInt_setWidth_of_lt, toNat_setWidth_of_le, BitVec.setWidth_eq])

/-- Day `2^31` stored into `*int32`. -/
theorem castTo_integer_date_int32 :
    (dateValue 0x80000000#32).castTo Runtime.insertion .int32 = .ok (.int32 0x80000000#32) ∧
    (Written.int32 0x80000000#32).integer.isSome ∧
    ((Written.int32 0x80000000#32).integer = (dateValue 0x80000000#32).integer ∨
      ∃ d, dateValue 0x80000000#32 = dateValue d ∧ Dst.int32 = .int32 ∧ 2 ^ 31 ≤ d.toNat ∧
        (Written.int32 0x80000000#32).integer = some (d.toNat - 2 ^ 32 : Int)) :=
  ⟨rfl, rfl, castTo_integer .insertion _ _ _ rfl rfl⟩

/-- A cast of an integer into `*string` or `*[]byte` stores its decimal
    rendering, except a `uint64` from `2^63` up, rendered through `int64(v)` as
    that less `2^64`. -/
theorem castTo_string_integer (v : Scalar) (i : Int) (hi : v.integer = some i) (s : GoString)
    (hs : v.castTo rt .string = .ok (.string s) ∨ v.castTo rt .bytes = .ok (.bytes s)) :
    s = FormatInt i ∨ ∃ n, v = uint64Value n ∧ 2 ^ 63 ≤ n.toNat ∧ s = FormatInt (n.toNat - 2 ^ 64 : Int) := by
  cases v <;> cases hi <;> rcases hs with hs | hs <;> cases hs
  case uint64Value.refl.inl.refl n | uint64Value.refl.inr.refl n =>
    rcases toInt_eq_or n with h | ⟨h2, h⟩
    · exact .inl (congrArg FormatInt h)
    · exact .inr ⟨n, rfl, by omega, congrArg FormatInt h⟩
  all_goals exact .inl (congrArg FormatInt (by
    simp (disch := decide) only [toInt_signExtend_of_le, toInt_setWidth_of_lt]))

/-- `uint64(2^63)` into `*string`. -/
theorem castTo_string_integer_uint64 :
    (uint64Value 0x8000000000000000#64).integer = some 9223372036854775808 ∧
    (uint64Value 0x8000000000000000#64).castTo Runtime.insertion .string =
      .ok (.string (FormatInt (-9223372036854775808))) ∧
    (FormatInt (-9223372036854775808) = FormatInt 9223372036854775808 ∨
      ∃ n, uint64Value 0x8000000000000000#64 = uint64Value n ∧ 2 ^ 63 ≤ n.toNat ∧
        FormatInt (-9223372036854775808) = FormatInt (n.toNat - 2 ^ 64 : Int)) :=
  ⟨rfl, rfl, castTo_string_integer .insertion (uint64Value 0x8000000000000000#64) _ rfl _ (.inl rfl)⟩

end Scalar

namespace Value

variable (rt : Runtime)

/-- `fmt.Sprintf("%+v", v)`: `v.String()`, or, when it panics, the panic
    caught by `fmt`. -/
def format (v : Value) : GoString :=
  match v.string rt with
  | .ok s => s
  | .error (.panic msg) | .error (.error msg) => lit ("%!v(PANIC=String method: " ++ msg ++ ")")

/-- The refusal of a value that accepts no destination. -/
def refuse (v : Value) (dst : Dst) : Result Written := .error (castFault (v.format rt) dst)

/-- `v.castTo(dst)`. -/
def castTo : Value → Dst → Result Written
  | scalar s, dst => s.castTo rt dst
  | optionalValue _ value, dst => match value with
    | some v => v.castTo dst
    | none => .error (.error "optional contains nil value")
  | tupleValue t items, dst => match items with
    | [v] => v.castTo dst
    | _ => refuse rt (.tupleValue t items) dst
  | variantValue _ v _, dst => v.castTo dst
  | voidValue, dst => .error (.error ("cannot cast 'Void' to '" ++ dst.goType ++ "' destination"))
  | v, dst => refuse rt v dst

/-- Through the typed nil pointer of any type, a cast that would store into a
    live pointer of that type panics on the store with Go's nil-dereference
    error, and a cast that would fail fails alike; through a live pointer no
    cast panics, the one rendering that can, a decimal's, being caught by `fmt`
    inside the refusal. -/
theorem castTo_typedNil : ∀ (v : Value) (t : PtrType),
    (∀ w, v.castTo rt (.live t) = .ok w → v.castTo rt (.nil t) =
      .error (.panic "runtime error: invalid memory address or nil pointer dereference")) ∧
    (∀ f, v.castTo rt (.live t) = .error f → v.castTo rt (.nil t) = .error f) ∧
    ∀ msg, v.castTo rt (.live t) ≠ .error (.panic msg)
  | scalar s, t => s.castTo_nil rt t
  -- The delegating cases pass the same pointer on.
  | optionalValue _ (some v), t | tupleValue _ [v], t | variantValue _ v _, t =>
    castTo_typedNil v t
  -- The rest fail before any store, with an error that reads only `%T`.
  | optionalValue _ none, _ | tupleValue _ [], _ | tupleValue _ (_ :: _ :: _), _
  | decimalValue _ _ _, _ | dictValue _ _, _ | listValue _ _, _ | structValue _ _, _
  | voidValue, _ => ⟨fun _ h => (by cases h), fun _ => id, fun _ h => (by cases h)⟩

/-- `(*bool)(nil)` as the destination of a `Bool` and of an `Int32`. -/
theorem castTo_typedNil_bool :
    (scalar (.boolValue true)).castTo .insertion (.nil .bool) =
      .error (.panic "runtime error: invalid memory address or nil pointer dereference") ∧
    (scalar (.int32Value 1)).castTo .insertion (.nil .bool) =
      .error (castFault (lit "Int32(\"1\")") (.live .bool)) :=
  ⟨(castTo_typedNil .insertion _ _).1 _ rfl, (castTo_typedNil .insertion _ _).2.1 _ rfl⟩

/-- `uint64(2^63)` cast to `*string` is rendered through `int64(v)`. -/
theorem castTo_uint64_two_pow_63 :
    (scalar (.uint64Value 9223372036854775808)).castTo rt .string =
      .ok (.string (lit "-9223372036854775808")) :=
  rfl

end Value

end YdbSdk
