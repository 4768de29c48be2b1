import YdbSdk.Value.Construct

/-!
# Decoding Values

`FromYDB(t, v)` and the functions it is made of, transcribed from `value.go`.
`fromYDB` decodes the wire type with `TypeFromYDB`, asks `nullValueFromYDB`
whether the payload is a NULL, and otherwise switches on the type. Elements are
decoded by calling the exported `FromYDB` on the element's re-encoded type, so
an error anywhere below the top becomes a panic (`Result.orPanic`).

The recursion follows the decoded type. Go re-encodes an element type with
`toYDB` and `FromYDB` decodes it again with `TypeFromYDB`; since that round
trip is the identity (`TypeFromYDB_toYDB`), `fromYDBAt` recurses on the element
type itself, and `FromYDB_toYDB` states that this is the call the code makes.

For a variant the code decodes the nested payload at the inner tuple or struct
type. `nullValueFromYDB` finds a NULL only at optional and void types, so at a
tuple or struct type `fromYDB` goes straight to its tuple or struct case; the
variant cases run that case's body directly.

Three things in the code panic rather than return an error: the index
`ttt.items[i]` and `ttt.fields[i]` when the payload has more items than the
type has members, the type assertion `v.Value.(*Ydb.Value_NestedValue)` in
the variant case, and `DictValue` on an empty dict.

## Main definitions

* `nullValueFromYDB`: Whether a payload is a NULL, and of what.
* `primitiveValueFromYDB`: The scalar a leaf holds.
* `fromYDBAt`: `fromYDB` after its first line, at a decoded type.
* `fromYDB`, `FromYDB`: The unexported decoder and its panicking wrapper.

## Theorems

* `FromYDB_toYDB`: Decoding at a re-encoded type is decoding at the type.
-/

namespace YdbSdk

open GoString

namespace Ydb.ValueOneof

/-- The dynamic Go type of the oneof, as `%T` prints it. -/
def goType {V : Type} : ValueOneof V → String
  | none => "<nil>" | boolValue _ => "*Ydb.Value_BoolValue"
  | int32Value _ => "*Ydb.Value_Int32Value" | uint32Value _ => "*Ydb.Value_Uint32Value"
  | int64Value _ => "*Ydb.Value_Int64Value" | uint64Value _ => "*Ydb.Value_Uint64Value"
  | floatValue _ => "*Ydb.Value_FloatValue" | doubleValue _ => "*Ydb.Value_DoubleValue"
  | bytesValue _ => "*Ydb.Value_BytesValue" | textValue _ => "*Ydb.Value_TextValue"
  | nullFlagValue => "*Ydb.Value_NullFlagValue" | nestedValue _ => "*Ydb.Value_NestedValue"
  | low128 _ => "*Ydb.Value_Low_128"

end Ydb.ValueOneof

/-- `nullValueFromYDB(x, t)`: follow the `NestedValue`s down to a `NullFlag`,
    which is the NULL of an optional type `t` or the Void value; anything else is
    no NULL. The whole chain is consumed at once, whatever its length. -/
def nullValueFromYDB : Ydb.Value → Ty → Option Value
  | ⟨.nestedValue x, _, _, _, _⟩, t => nullValueFromYDB x t
  | ⟨.nullFlagValue, _, _, _, _⟩, t => match t with
    | .optionalType innerType => some (NullValue innerType)
    | .voidType => some VoidValue
    | _ => none
  | _, _ => none

/-- A payload that is neither nested nor a `NullFlag` is no NULL. -/
theorem nullValueFromYDB_eq_none {w : Ydb.Value} (hn : ∀ x, w.value ≠ .nestedValue x)
    (hf : w.value ≠ .nullFlagValue) (t : Ty) : nullValueFromYDB w t = none := by
  obtain ⟨value, _, _, _, _⟩ := w
  cases value
  case nestedValue x => exact absurd rfl (hn x)
  case nullFlagValue => exact absurd rfl hf
  all_goals rfl

/-- A payload whose oneof is unset, as a container's encoding leaves it, is no NULL. -/
theorem nullValueFromYDB_unset {w : Ydb.Value} (h : w.value = .none) (t : Ty) :
    nullValueFromYDB w t = none :=
  nullValueFromYDB_eq_none (by simp [h]) (by simp [h]) t

/-- A `NestedValue` is looked through for a NULL. -/
@[simp] theorem nullValueFromYDB_nested (x : Ydb.Value) (items : List Ydb.Value)
    (pairs : List (Ydb.Value × Ydb.Value)) (i : BitVec 32) (h : BitVec 64) (t : Ty) :
    nullValueFromYDB ⟨.nestedValue x, items, pairs, i, h⟩ t = nullValueFromYDB x t := rfl

/-- A NULL is found only at an optional type, as its `NullValue`, or at the Void
    type, as the Void value. -/
theorem nullValueFromYDB_eq_some {w : Ydb.Value} {t : Ty} {vv : Value}
    (h : nullValueFromYDB w t = some vv) :
    (∃ i, t = .optionalType i ∧ vv = NullValue i) ∨ (t = .voidType ∧ vv = VoidValue) := by
  induction w, t using nullValueFromYDB.induct with
  | case1 x _ _ _ _ t ih => exact ih h
  | case2 => exact .inl ⟨_, rfl, (Option.some.inj h).symm⟩
  | case3 => exact .inr ⟨rfl, (Option.some.inj h).symm⟩
  | case4 _ _ _ _ t h1 h2 =>
    cases t <;> first | exact Option.noConfusion h | exact absurd rfl (h1 _) | exact absurd rfl h2
  | case5 x t h1 h2 =>
    obtain ⟨value, _, _, _, _⟩ := x
    cases value <;> first | exact Option.noConfusion h | exact absurd rfl (h1 _ _ _ _ _) | exact absurd rfl (h2 _ _ _ _)

/-- No scalar's encoding is a NULL at any type. -/
theorem nullValueFromYDB_scalar (s : Scalar) (t : Ty) : nullValueFromYDB s.toYDB t = none := by
  cases s <;> rfl

open Scalar PrimitiveType in
/-- `primitiveValueFromYDB(t, v)`: the leaf of the primitive's kind, read with
    the getters (so another leaf reads as zero) and narrowed by the Go conversion.
    Only YSON looks at which leaf is set, and fails on any but text and bytes. -/
def primitiveValueFromYDB (t : PrimitiveType) (v : Ydb.Value) : Result Value :=
  match t with
  | TypeBool => .ok (.scalar (boolValue v.GetBoolValue))
  | TypeInt8 => .ok (.scalar (int8Value (v.GetInt32Value.setWidth 8)))
  | TypeInt16 => .ok (.scalar (int16Value (v.GetInt32Value.setWidth 16)))
  | TypeInt32 => .ok (.scalar (int32Value v.GetInt32Value))
  | TypeInt64 => .ok (.scalar (int64Value v.GetInt64Value))
  | TypeUint8 => .ok (.scalar (uint8Value (v.GetUint32Value.setWidth 8)))
  | TypeUint16 => .ok (.scalar (uint16Value (v.GetUint32Value.setWidth 16)))
  | TypeUint32 => .ok (.scalar (uint32Value v.GetUint32Value))
  | TypeUint64 => .ok (.scalar (uint64Value v.GetUint64Value))
  | TypeDate => .ok (.scalar (dateValue v.GetUint32Value))
  | TypeDatetime => .ok (.scalar (datetimeValue v.GetUint32Value))
  | TypeInterval => .ok (.scalar (intervalValue v.GetInt64Value))
  | TypeTimestamp => .ok (.scalar (timestampValue v.GetUint64Value))
  | TypeFloat => .ok (.scalar (floatValue v.GetFloatValue))
  | TypeDouble => .ok (.scalar (doubleValue v.GetDoubleValue))
  | TypeText => .ok (.scalar (textValue v.GetTextValue))
  | TypeYSON => match v.value with
    | .textValue s => .ok (.scalar (ysonValue s))
    | .bytesValue b => .ok (.scalar (ysonValue b))
    | x => .error (.error s!"uncovered YSON internal type: {x.goType}")
  | TypeJSON => .ok (.scalar (jsonValue v.GetTextValue))
  | TypeJSONDocument => .ok (.scalar (jsonDocumentValue v.GetTextValue))
  | TypeDyNumber => .ok (.scalar (dyNumberValue v.GetTextValue))
  | TypeTzDate => .ok (.scalar (tzDateValue v.GetTextValue))
  | TypeTzDatetime => .ok (.scalar (tzDatetimeValue v.GetTextValue))
  | TypeTzTimestamp => .ok (.scalar (tzTimestampValue v.GetTextValue))
  | TypeBytes => .ok (.scalar (bytesValue v.GetBytesValue))
  | TypeUUID => .ok (UUIDValue (BigEndianUint128 v.high128 v.GetLow_128))

/-- Narrowing a sign extension gives back the number. -/
theorem setWidth_signExtend {w : Nat} (v : BitVec w) (h : w ≤ 32) : (v.signExtend 32).setWidth w = v := by
  apply BitVec.eq_of_getLsbD_eq; intro i
  simp [BitVec.getLsbD_setWidth, BitVec.getLsbD_signExtend]; omega

open Ydb.Value in
/-- A scalar's encoding decodes to the scalar. -/
theorem primitiveValueFromYDB_toYDB (s : Scalar) :
    primitiveValueFromYDB s.primitiveType s.toYDB = .ok (.scalar s) := by
  cases s
  -- The narrow integers travel widened, and come back narrowed.
  case int8Value v =>
    show (.ok (.scalar (.int8Value ((v.signExtend 32).setWidth 8))) : Result Value) = _
    rw [setWidth_signExtend v (by decide)]
  case int16Value v =>
    show (.ok (.scalar (.int16Value ((v.signExtend 32).setWidth 16))) : Result Value) = _
    rw [setWidth_signExtend v (by decide)]
  case uint8Value v =>
    show (.ok (.scalar (.uint8Value ((v.setWidth 32).setWidth 8))) : Result Value) = _
    rw [BitVec.setWidth_setWidth_of_le _ (by decide), BitVec.setWidth_eq]
  case uint16Value v =>
    show (.ok (.scalar (.uint16Value ((v.setWidth 32).setWidth 16))) : Result Value) = _
    rw [BitVec.setWidth_setWidth_of_le _ (by decide), BitVec.setWidth_eq]
  -- A UUID travels split in two halves.
  case uuidValue b =>
    show Except.ok (UUIDValue (BigEndianUint128 b.hi b.lo)) = _
    rw [BigEndianUint128_split]; rfl
  all_goals rfl

/-- The panic of a failed `v.Value.(*Ydb.Value_NestedValue)`: Go's
    `TypeAssertionError` names the interface type `Ydb.isValue_Value` and the
    dynamic type found, which is `nil` for an unset oneof. -/
def notNestedPanic : Ydb.ValueOneof Ydb.Value → Fault
  | .none => .panic "interface conversion: Ydb.isValue_Value is nil, not *Ydb.Value_NestedValue"
  | x => .panic s!"interface conversion: Ydb.isValue_Value is {x.goType}, not *Ydb.Value_NestedValue"

/-- Go's panic for `s[i]` with `i ≥ len(s)`. -/
def indexPanic (i n : Nat) : Fault := .panic s!"runtime error: index out of range [{i}] with length {n}"

variable (rt : Runtime)

mutual
/-- `fromYDB(t, v)` from its second line on, with `tt = TypeFromYDB(t)`. Every
    recursive `FromYDB(x.toYDB(a), w)` is `(fromYDBAt x w).orPanic`. -/
def fromYDBAt : Ty → Ydb.Value → Result Value
  | tt, v => match nullValueFromYDB v tt with
    | some vv => .ok vv
    | none => match tt with
      | .primitive t => primitiveValueFromYDB t v
      | .voidType => .ok VoidValue
      | .nullType => .ok (NullValue .nullType)
      | .decimalType p s => .ok (DecimalValue (BigEndianUint128 v.high128 v.GetLow_128) p s)
      | .optionalType t => match v.value with
        | .nestedValue nv => do return OptionalValue (← (fromYDBAt t nv).orPanic)
        | _ => do return OptionalValue (← (fromYDBAt t v).orPanic)
      | .listType t => do ListValue (← v.items.mapM fun w => (fromYDBAt t w).orPanic)
      | .tupleType ts => do return TupleValue (← tupleItemsFromYDB ts.length 0 ts v.items)
      | .structType fs => do return StructValue rt (← structFieldsFromYDB fs.length 0 fs v.items)
      | .dictType k w => do
        DictValue rt (← v.pairs.mapM fun p => do
          return ((← (fromYDBAt k p.1).orPanic), (← (fromYDBAt w p.2).orPanic)))
      | .variantTupleType ts => match v.value with
        | .nestedValue nv => do
          let inner ← Result.orPanic do return TupleValue (← tupleItemsFromYDB ts.length 0 ts nv.items)
          VariantValueTuple inner v.variantIndex
        | x => .error (notNestedPanic x)
      | .variantStructType fs => match v.value with
        | .nestedValue nv => do
          let inner ← Result.orPanic do
            return StructValue rt (← structFieldsFromYDB fs.length 0 fs nv.items)
          VariantValueStruct inner v.variantIndex
        | x => .error (notNestedPanic x)
      | .emptyListType => .error (.error "uncovered type: value.emptyListType")
      | .emptyDictType => .error (.error "uncovered type: value.emptyDictType")

/-- `FromYDB(ttt.items[i].toYDB(a), vvv)` for the `i`-th item on, where `n` is
    `len(ttt.items)`. -/
def tupleItemsFromYDB (n i : Nat) : List Ty → List Ydb.Value → Result (List Value)
  | _, [] => .ok []
  | [], _ :: _ => .error (indexPanic i n)
  | t :: ts, w :: ws => do
    return (← (fromYDBAt t w).orPanic) :: (← tupleItemsFromYDB n (i + 1) ts ws)

/-- `StructValueField{Name: ttt.fields[i].Name, V: FromYDB(ttt.fields[i].T.toYDB(a), vvv)}`
    for the `i`-th item on, where `n` is `len(ttt.fields)`. -/
def structFieldsFromYDB (n i : Nat) :
    List (GoString × Ty) → List Ydb.Value → Result (List (GoString × Value))
  | _, [] => .ok []
  | [], _ :: _ => .error (indexPanic i n)
  | (name, t) :: fs, w :: ws => do
    return (name, ← (fromYDBAt t w).orPanic) :: (← structFieldsFromYDB n (i + 1) fs ws)
end

/-- No items decode to no values, whatever the members. -/
@[simp] theorem tupleItemsFromYDB_nil (n i : Nat) (ts : List Ty) :
    tupleItemsFromYDB rt n i ts [] = .ok [] := by
  cases ts <;> rfl

/-- No items decode to no fields, whatever the members. -/
@[simp] theorem structFieldsFromYDB_nil (n i : Nat) (fs : List (GoString × Ty)) :
    structFieldsFromYDB rt n i fs [] = .ok [] := by
  cases fs <;> rfl

/-- `fromYDB(t, v)`. -/
def fromYDB (t : Ydb.Ty) (v : Ydb.Value) : Result Value := fromYDBAt rt (TypeFromYDB t) v

/-- `FromYDB(t, v)`: `fromYDB`, with a returned error re-raised as a panic. -/
def FromYDB (t : Ydb.Ty) (v : Ydb.Value) : Result Value := (fromYDB rt t v).orPanic

/-- `FromYDB` at the wire description of a type decodes at that type. -/
theorem FromYDB_toYDB (x : Ty) (w : Ydb.Value) :
    FromYDB rt x.toYDB w = (fromYDBAt rt x w).orPanic := by
  simp [FromYDB, fromYDB, TypeFromYDB_toYDB]

/-- An item of a `List<Yson>` that holds neither text nor bytes: `fromYDB`
    panics, since the item's error is re-raised by the inner `FromYDB`. -/
theorem fromYDB_yson_item_panics :
    fromYDB rt (.listType (.typeId .YSON)) { Ydb.Value.leaf .none with items := [.leaf (.int32Value 1)] } =
      .error (.panic "uncovered YSON internal type: *Ydb.Value_Int32Value") :=
  rfl

end YdbSdk
