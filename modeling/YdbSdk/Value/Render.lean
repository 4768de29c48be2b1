import YdbSdk.Value.Basic
import YdbSdk.Time

/-!
# Rendering Values

`toString()`, the bare payload, and `String()`, the payload with its type. They
matter beyond display: `DictValue` orders its pairs by the keys' `toString()`,
so what these functions identify decides what a dict looks like.

`String()` is, for every kind of value, a fixed wrapper around `toString()`
(`Int32("5")`, `AsList(...)`, `CAST("NULL" AS Optional<Text>)`); `stringWrap`
is that wrapper, and `string` applies it. The containers render their children
through one or the other, so the two are defined together, by recursion on the
value, with `toString` as the recursive function.

`decimalValue.toString` cuts the integer's digits `scale` places from the right
with Go's slice expressions, which panic on a negative bound, so rendering is a
`Result`. `decimal.FromBytes` itself lives outside `src/`; it is modelled from
the spec as the two's-complement reading of the 16 bytes. Nothing else in the
rendering can fail: `toString_ok_iff` says a value renders exactly when every
decimal inside it has at least as many digits as its scale.

## Main definitions

* `FromBytes`: The integer a decimal's bytes hold.
* `decimalString`: `decimalValue.toString`.
* `uuidString`, `intervalString`: The UUID and ISO-8601 duration renderings.
* `Scalar.toString`, `Value.toString`: `v.toString()`.
* `Value.stringWrap`, `Value.string`: `v.String()`.
* `Value.decimalsFit`: Every decimal inside a value has enough digits for its scale.

## Theorems

* `toString_decimal_zero_22_9`: The zero of `Decimal(22,9)` does not render.
* `toString_ok_iff`, `string_ok_iff`: A value renders without a panic exactly
  when its decimals fit.
-/

namespace YdbSdk

open GoString

/-- Modelled from the spec: `decimal.FromBytes(b, precision, scale)`, the
    two's-complement big-endian integer held by `b`. -/
def FromBytes (b : List UInt8) (_precision _scale : BitVec 32) : Int :=
  let n : Nat := b.foldl (fun acc x => acc * 256 + x.toNat) 0
  if n < 2 ^ (8 * b.length - 1) then n else (n : Int) - 2 ^ (8 * b.length)

/-- `decimalValue.toString`: `s[:len(s)-scale] + "." + s[len(s)-scale:]` for the
    digits `s` of the integer; a negative bound panics. -/
def decimalString (value : Bytes16) (precision scale : BitVec 32) : Result GoString :=
  let s := FormatInt (FromBytes value.bytes precision scale)
  let k : Int := s.length - scale.toNat
  if k < 0 then .error (.panic s!"runtime error: slice bounds out of range [:{k}]")
  else .ok (s.take k.toNat ++ lit "." ++ s.drop k.toNat)

/-- `hex.Encode`: two lowercase hex digits per byte. -/
def hexEncode (b : List UInt8) : GoString :=
  b.flatMap fun x => [hexDigit (x.toNat / 16), hexDigit (x.toNat % 16)]
where
  hexDigit (n : Nat) : UInt8 := (if n < 10 then 48 + n else 87 + n).toUInt8

/-- `uuid.UUID(b).String()`: `xxxxxxxx-xxxx-xxxx-xxxx-xxxxxxxxxxxx`. -/
def uuidString (b : Bytes16) : GoString :=
  let x := b.bytes
  hexEncode (x.take 4) ++ lit "-" ++ hexEncode ((x.drop 4).take 2) ++ lit "-" ++
    hexEncode ((x.drop 6).take 2) ++ lit "-" ++ hexEncode ((x.drop 8).take 2) ++ lit "-" ++
    hexEncode (x.drop 10)

/-- `intervalValue.toString`: the duration in ISO 8601, built by the code's
    sequence of signed `int64` divisions and subtractions. -/
def intervalString (rt : Runtime) (v : BitVec 64) : GoString :=
  let hour : BitVec 64 := 3600000000000
  let minute : BitVec 64 := 60000000000
  let d₀ := IntervalToDuration v
  let (sign, d₁) := if d₀.slt 0 then (lit "-", -d₀) else ([], d₀)
  let days := (d₁.sdiv hour).sdiv 24
  let (dayPart, d₂) :=
    if (0 : BitVec 64).slt days then (FormatInt days.toInt ++ lit "D", d₁ - days * hour * 24)
    else ([], d₁)
  let tPart := if (0 : BitVec 64).slt d₂ then lit "T" else []
  let hours := d₂.sdiv hour
  let (hourPart, d₃) :=
    if (0 : BitVec 64).slt hours then (FormatInt hours.toInt ++ lit "H", d₂ - hours * hour)
    else ([], d₂)
  let minutes := d₃.sdiv minute
  let (minutePart, d₄) :=
    if (0 : BitVec 64).slt minutes then (FormatInt minutes.toInt ++ lit "M", d₃ - minutes * minute)
    else ([], d₃)
  let secondPart := if (0 : BitVec 64).slt d₄ then rt.formatSeconds d₄ ++ lit "S" else []
  sign ++ lit "P" ++ dayPart ++ tPart ++ hourPart ++ minutePart ++ secondPart

namespace Scalar

/-- `v.toString()`. The integer kinds go through `int64(v)` or `uint64(v)`. -/
def toString (rt : Runtime) : Scalar → GoString
  | boolValue v => lit (if v then "true" else "false")
  | dateValue v => rt.formatDate (DateToTime v)
  | datetimeValue v => rt.formatDatetime (DatetimeToTime v)
  | doubleValue v => rt.formatFloat64 v
  | floatValue v => rt.formatFloat32 v
  | int8Value v => FormatInt (v.signExtend 64).toInt
  | int16Value v => FormatInt (v.signExtend 64).toInt
  | int32Value v => FormatInt (v.signExtend 64).toInt
  | int64Value v => FormatInt v.toInt
  | intervalValue v => intervalString rt v
  | timestampValue v => rt.formatTimestamp (TimestampToTime v)
  | uint8Value v => FormatUint (v.setWidth 64).toNat
  | uint16Value v => FormatUint (v.setWidth 64).toNat
  | uint32Value v => FormatUint (v.setWidth 64).toNat
  | uint64Value v => FormatUint v.toNat
  | uuidValue v => uuidString v
  | dyNumberValue v | jsonValue v | jsonDocumentValue v | tzDateValue v | tzDatetimeValue v
  | tzTimestampValue v | textValue v | ysonValue v | bytesValue v => v

/-- What `v.String()` puts around `v.toString()`: `Type(%q)`, or `Type(@@%s@@)`
    for the two JSON kinds. -/
def stringWrap (rt : Runtime) (v : Scalar) (s : GoString) : GoString :=
  match v with
  | jsonValue _ | jsonDocumentValue _ => v.primitiveType.string ++ lit "(@@" ++ s ++ lit "@@)"
  | _ => v.primitiveType.string ++ lit "(" ++ rt.quote s ++ lit ")"

end Scalar

namespace Value

variable (rt : Runtime)

/-- What `v.String()` puts around `v.toString()`, per kind of value. -/
def stringWrap : Value → GoString → GoString
  | scalar v, s => v.stringWrap rt s
  | decimalValue _ p sc, s =>
    lit "Decimal(" ++ rt.quote s ++ lit "," ++ FormatUint p.toNat ++ lit "," ++
      FormatUint sc.toNat ++ lit ")"
  | dictValue _ _, s => lit "AsDict(" ++ s ++ lit ")"
  | listValue _ _, s => lit "AsList(" ++ s ++ lit ")"
  | optionalValue t _, s => lit "CAST(" ++ rt.quote s ++ lit " AS " ++ t.string ++ lit ")"
  | structValue _ _, s => lit "AsStruct(" ++ s ++ lit ")"
  | tupleValue _ _, s => lit "AsTuple(" ++ s ++ lit ")"
  | variantValue _ _ _, s => lit "AsVariant(" ++ s ++ lit ")"
  | voidValue, s => s

mutual
/-- `v.toString()`. -/
def toString : Value → Result GoString
  | scalar v => .ok (v.toString rt)
  | decimalValue b p s => decimalString b p s
  | dictValue _ values => do return joinComma (← pairsToString values)
  | listValue _ items => do return joinComma (← itemsToString items)
  | optionalValue _ value => match value with
    | some v => v.toString
    | none => .ok (lit "NULL")
  | structValue _ fields => do return joinComma (← fieldsToString fields)
  | tupleValue _ items => do return joinComma (← itemsString items)
  | variantValue _ v idx => do
    return rt.quote (← v.toString) ++ lit "," ++ FormatUint (idx.setWidth 64).toNat
  | voidValue => .ok (lit "VOID")

/-- The `toString()` of each list item. -/
def itemsToString : List Value → Result (List GoString)
  | [] => .ok []
  | v :: vs => do return (← v.toString) :: (← itemsToString vs)

/-- The `String()` of each tuple item. -/
def itemsString : List Value → Result (List GoString)
  | [] => .ok []
  | v :: vs => do return v.stringWrap rt (← v.toString) :: (← itemsString vs)

/-- ``V.String() + " AS `" + Name + "`"`` for each struct field. -/
def fieldsToString : List (GoString × Value) → Result (List GoString)
  | [] => .ok []
  | (n, v) :: fs => do
    return (v.stringWrap rt (← v.toString) ++ lit " AS `" ++ n ++ lit "`") :: (← fieldsToString fs)

/-- `"AsTuple(" + K.String() + "," + V.String() + ")"` for each dict pair. -/
def pairsToString : List (Value × Value) → Result (List GoString)
  | [] => .ok []
  | (k, v) :: ps => do
    let ks ← k.toString
    let vs ← v.toString
    return (lit "AsTuple(" ++ k.stringWrap rt ks ++ lit "," ++ v.stringWrap rt vs ++ lit ")") ::
      (← pairsToString ps)
end

/-- The zero of `Decimal(22,9)` has one digit and scale 9: its rendering panics. -/
theorem toString_decimal_zero_22_9 :
    (decimalValue Bytes16.zero 22 9).toString rt =
      .error (.panic "runtime error: slice bounds out of range [:-8]") :=
  rfl

/-- `v.String()`. -/
def string (v : Value) : Result GoString := do return v.stringWrap rt (← v.toString rt)

mutual
/-- Every decimal inside `v` has at least as many digits, its sign included, as
    its scale, so that the slice `toString` takes of its digits is in bounds. -/
def decimalsFit : Value → Bool
  | scalar _ | voidValue => true
  | decimalValue b p s => decide (s.toNat ≤ (FormatInt (FromBytes b.bytes p s)).length)
  | dictValue _ values => pairsDecimalsFit values
  | listValue _ items | tupleValue _ items => itemsDecimalsFit items
  | optionalValue _ value => match value with
    | some v => v.decimalsFit
    | none => true
  | structValue _ fields => fieldsDecimalsFit fields
  | variantValue _ v _ => v.decimalsFit

/-- Every decimal inside the items fits. -/
def itemsDecimalsFit : List Value → Bool
  | [] => true
  | v :: vs => v.decimalsFit && itemsDecimalsFit vs

/-- Every decimal inside the field values fits. -/
def fieldsDecimalsFit : List (GoString × Value) → Bool
  | [] => true
  | (_, v) :: fs => v.decimalsFit && fieldsDecimalsFit fs

/-- Every decimal inside the keys and payloads fits. -/
def pairsDecimalsFit : List (Value × Value) → Bool
  | [] => true
  | (k, v) :: ps => k.decimalsFit && v.decimalsFit && pairsDecimalsFit ps
end

/-- A decimal renders without a panic exactly when its digits fit its precision and scale. -/
theorem decimalString_ok_iff (b : Bytes16) (p s : BitVec 32) :
    (∃ r, decimalString b p s = .ok r) ↔ (decimalValue b p s).decimalsFit := by
  simp only [decimalString, decimalsFit, decide_eq_true_eq]
  split <;> simp <;> omega

mutual
/-- `v.toString()` returns without a panic exactly when every decimal inside `v`
    fits: a decimal's slice is the only thing in the rendering that can fail. -/
theorem toString_ok_iff : ∀ v : Value, (∃ r, v.toString rt = .ok r) ↔ v.decimalsFit
  -- Nothing inside these renderings can fail.
  | scalar _ | voidValue | optionalValue _ none => iff_of_true ⟨_, rfl⟩ rfl
  | decimalValue b p s => decimalString_ok_iff b p s
  -- A container renders its parts and then wraps them, which cannot fail.
  | optionalValue _ (some v) | variantValue _ v _ => by
    rw [toString]
    simp only [Result.exists_bind_eq_ok, Result.pure_eq, Except.ok.injEq, exists_eq', and_true, toString_ok_iff v]
    rfl
  | dictValue _ values => by
    rw [toString]
    simp only [Result.exists_bind_eq_ok, Result.pure_eq, Except.ok.injEq, exists_eq', and_true, pairsToString_ok_iff values]
    rfl
  | listValue _ items => by
    rw [toString]
    simp only [Result.exists_bind_eq_ok, Result.pure_eq, Except.ok.injEq, exists_eq', and_true, itemsToString_ok_iff items]
    rfl
  | tupleValue _ items => by
    rw [toString]
    simp only [Result.exists_bind_eq_ok, Result.pure_eq, Except.ok.injEq, exists_eq', and_true, itemsString_ok_iff items]
    rfl
  | structValue _ fields => by
    rw [toString]
    simp only [Result.exists_bind_eq_ok, Result.pure_eq, Except.ok.injEq, exists_eq', and_true,
      fieldsToString_ok_iff fields]
    rfl

/-- Items render without a panic exactly when every decimal among them fits. -/
theorem itemsToString_ok_iff : ∀ vs : List Value, (∃ r, itemsToString rt vs = .ok r) ↔ itemsDecimalsFit vs
  | [] => iff_of_true ⟨_, rfl⟩ rfl
  | v :: vs => by
    rw [itemsToString, itemsDecimalsFit]
    simp only [Result.exists_bind_eq_ok, Result.pure_eq, Except.ok.injEq, exists_eq', and_true, exists_and_right,
      toString_ok_iff v, itemsToString_ok_iff vs, Bool.and_eq_true]

/-- Items render, wrapped, without a panic exactly when every decimal among them fits. -/
theorem itemsString_ok_iff : ∀ vs : List Value, (∃ r, itemsString rt vs = .ok r) ↔ itemsDecimalsFit vs
  | [] => iff_of_true ⟨_, rfl⟩ rfl
  | v :: vs => by
    rw [itemsString, itemsDecimalsFit]
    simp only [Result.exists_bind_eq_ok, Result.pure_eq, Except.ok.injEq, exists_eq', and_true, exists_and_right,
      toString_ok_iff v, itemsString_ok_iff vs, Bool.and_eq_true]

/-- Fields render without a panic exactly when every decimal among their values fits. -/
theorem fieldsToString_ok_iff : ∀ fs : List (GoString × Value),
    (∃ r, fieldsToString rt fs = .ok r) ↔ fieldsDecimalsFit fs
  | [] => iff_of_true ⟨_, rfl⟩ rfl
  | (_, v) :: fs => by
    rw [fieldsToString, fieldsDecimalsFit]
    simp only [Result.exists_bind_eq_ok, Result.pure_eq, Except.ok.injEq, exists_eq', and_true, exists_and_right,
      toString_ok_iff v, fieldsToString_ok_iff fs, Bool.and_eq_true]

/-- Pairs render without a panic exactly when every decimal among their keys and payloads fits. -/
theorem pairsToString_ok_iff : ∀ ps : List (Value × Value),
    (∃ r, pairsToString rt ps = .ok r) ↔ pairsDecimalsFit ps
  | [] => iff_of_true ⟨_, rfl⟩ rfl
  | (k, v) :: ps => by
    rw [pairsToString, pairsDecimalsFit]
    simp only [Result.exists_bind_eq_ok, Result.pure_eq, Except.ok.injEq, exists_eq', and_true, exists_and_right,
      toString_ok_iff k, toString_ok_iff v, pairsToString_ok_iff ps, Bool.and_eq_true, and_assoc]
end

/-- `v.String()` returns without a panic exactly when every decimal inside `v`
    fits. -/
theorem string_ok_iff (v : Value) : (∃ r, v.string rt = .ok r) ↔ v.decimalsFit := by
  rw [string]
  simp only [Result.exists_bind_eq_ok, Result.pure_eq, Except.ok.injEq, exists_eq', and_true, toString_ok_iff]

end Value

end YdbSdk
