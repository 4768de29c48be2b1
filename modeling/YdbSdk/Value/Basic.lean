import YdbSdk.Type

/-!
# Values and Their Encoding

The Go interface `Value` and its encoder `toYDB`. Every Go type implementing
`Value` is one constructor: the twenty-five scalar types, whose `Type()` is a
`PrimitiveType`, are gathered into `Scalar`; the rest (`decimalValue`,
`dictValue`, `listValue`, `optionalValue`, `structValue`, `tupleValue`,
`variantValue`, `voidValue`) hold other values and are constructors of `Value`
itself.

A container keeps the `t` field Go keeps, so a value can carry a type its
payload does not have: nothing in the representation stops a list of `Text`
from claiming to be a `List<Int32>`, and whether the constructors prevent it is
a theorem, not a given. Where Go's field always holds one kind of type (the
`t` of a `tupleValue` is always a `*TupleType`, that of a `structValue` always
a `*StructType`), the model keeps only the members.

`toYDB` is transcribed method by method. `optionalValue.toYDB` is the one with
a twist: for a payload that is not itself optional it copies only the oneof of
the payload's encoding, so whatever the payload kept in `items`, `pairs`,
`variant_index` or `high_128` is lost.

## Main definitions

* `Scalar`, `Scalar.primitiveType`, `Scalar.toYDB`: The scalar values, their
  types and encodings.
* `Value`: The Go interface `Value`.
* `Value.type`: `v.Type()`.
* `Value.toYDB`: `v.toYDB(a)`.
* `ToYDB`: The typed pair the package sends.
-/

namespace YdbSdk

/-- The values whose `Type()` is a `PrimitiveType`. -/
inductive Scalar where
  | boolValue (v : Bool)
  | dateValue (v : BitVec 32)
  | datetimeValue (v : BitVec 32)
  /-- `*doubleValue`, holding the bits of its `float64`. -/
  | doubleValue (value : BitVec 64)
  | dyNumberValue (v : GoString)
  /-- `*floatValue`, holding the bits of its `float32`. -/
  | floatValue (value : BitVec 32)
  | int8Value (v : BitVec 8)
  | int16Value (v : BitVec 16)
  | int32Value (v : BitVec 32)
  | int64Value (v : BitVec 64)
  | intervalValue (v : BitVec 64)
  | jsonValue (v : GoString)
  | jsonDocumentValue (v : GoString)
  | timestampValue (v : BitVec 64)
  | tzDateValue (v : GoString)
  | tzDatetimeValue (v : GoString)
  | tzTimestampValue (v : GoString)
  | uint8Value (v : BitVec 8)
  | uint16Value (v : BitVec 16)
  | uint32Value (v : BitVec 32)
  | uint64Value (v : BitVec 64)
  | textValue (v : GoString)
  /-- `*uuidValue`. -/
  | uuidValue (value : Bytes16)
  | ysonValue (v : List UInt8)
  | bytesValue (v : List UInt8)
  deriving DecidableEq

namespace Scalar

open PrimitiveType in
/-- `v.Type()`. -/
def primitiveType : Scalar → PrimitiveType
  | boolValue _ => TypeBool | dateValue _ => TypeDate | datetimeValue _ => TypeDatetime
  | doubleValue _ => TypeDouble | dyNumberValue _ => TypeDyNumber | floatValue _ => TypeFloat
  | int8Value _ => TypeInt8 | int16Value _ => TypeInt16 | int32Value _ => TypeInt32
  | int64Value _ => TypeInt64 | intervalValue _ => TypeInterval | jsonValue _ => TypeJSON
  | jsonDocumentValue _ => TypeJSONDocument | timestampValue _ => TypeTimestamp
  | tzDateValue _ => TypeTzDate | tzDatetimeValue _ => TypeTzDatetime
  | tzTimestampValue _ => TypeTzTimestamp | uint8Value _ => TypeUint8
  | uint16Value _ => TypeUint16 | uint32Value _ => TypeUint32 | uint64Value _ => TypeUint64
  | textValue _ => TypeText | uuidValue _ => TypeUUID | ysonValue _ => TypeYSON
  | bytesValue _ => TypeBytes

/-- `v.toYDB(a)`. The narrow integers travel in the 32-bit fields: `int32(v)`
    sign-extends, `uint32(v)` zero-extends. -/
def toYDB : Scalar → Ydb.Value
  | boolValue v => .leaf (.boolValue v)
  | dateValue v | datetimeValue v | uint32Value v => .leaf (.uint32Value v)
  | doubleValue v => .leaf (.doubleValue v)
  | floatValue v => .leaf (.floatValue v)
  | int8Value v => .leaf (.int32Value (v.signExtend 32))
  | int16Value v => .leaf (.int32Value (v.signExtend 32))
  | int32Value v => .leaf (.int32Value v)
  | int64Value v | intervalValue v => .leaf (.int64Value v)
  | timestampValue v | uint64Value v => .leaf (.uint64Value v)
  | uint8Value v => .leaf (.uint32Value (v.setWidth 32))
  | uint16Value v => .leaf (.uint32Value (v.setWidth 32))
  | dyNumberValue v | jsonValue v | jsonDocumentValue v | tzDateValue v | tzDatetimeValue v
  | tzTimestampValue v | textValue v => .leaf (.textValue v)
  | ysonValue v | bytesValue v => .leaf (.bytesValue v)
  | uuidValue v => { Ydb.Value.leaf (.low128 v.lo) with high128 := v.hi }

end Scalar

/-- The Go interface `Value`, one constructor per implementing type. -/
inductive Value where
  | scalar (v : Scalar)
  /-- `*decimalValue`; its `innerType` is `&DecimalType{Precision, Scale}`. -/
  | decimalValue (value : Bytes16) (Precision Scale : BitVec 32)
  /-- `*dictValue`; a `DictValueField{K, V}` is a pair. -/
  | dictValue (t : Ty) (values : List (Value × Value))
  | listValue (t : Ty) (items : List Value)
  /-- `*optionalValue`; `innerType` is the optional type itself, `value` is nil for NULL. -/
  | optionalValue (innerType : Ty) (value : Option Value)
  /-- `*structValue` of type `Struct(t...)`; a `StructValueField{Name, V}` is a pair. -/
  | structValue (t : List (GoString × Ty)) (fields : List (GoString × Value))
  /-- `*tupleValue` of type `Tuple(t...)`. -/
  | tupleValue (t : List Ty) (items : List Value)
  | variantValue (innerType : Ty) (value : Value) (idx : BitVec 32)
  | voidValue

namespace Value

/-- `v.Type()`. -/
def type : Value → Ty
  | scalar s => .primitive s.primitiveType
  | decimalValue _ p s => .decimalType p s
  | dictValue t _ | listValue t _ => t
  | optionalValue t _ => t
  | structValue t _ => .structType t
  | tupleValue t _ => .tupleType t
  | variantValue t _ _ => t
  | voidValue => .voidType

/-- The type test `v.(*optionalValue)`. -/
def isOptional : Value → Bool
  | optionalValue _ _ => true
  | _ => false

mutual
/-- `v.toYDB(a)`. The arena only hands out zeroed nodes, so it does not show. -/
def toYDB : Value → Ydb.Value
  | scalar s => s.toYDB
  | decimalValue b _ _ => { Ydb.Value.leaf (.low128 b.lo) with high128 := b.hi }
  | dictValue _ values => { Ydb.Value.leaf .none with pairs := pairsToYDB values }
  | listValue _ items | tupleValue _ items => { Ydb.Value.leaf .none with items := itemsToYDB items }
  | structValue _ fields => { Ydb.Value.leaf .none with items := fieldsToYDB fields }
  | optionalValue _ value => match value with
    | some v => if v.isOptional then .leaf (.nestedValue v.toYDB) else .leaf v.toYDB.value
    | none => .leaf .nullFlagValue
  | variantValue _ v idx => { Ydb.Value.leaf (.nestedValue v.toYDB) with variantIndex := idx }
  | voidValue => .leaf .nullFlagValue

/-- The encodings of list or tuple items, in stored order. -/
def itemsToYDB : List Value → List Ydb.Value
  | [] => []
  | v :: vs => v.toYDB :: itemsToYDB vs

/-- The encodings of struct field values, in stored order. -/
def fieldsToYDB : List (GoString × Value) → List Ydb.Value
  | [] => []
  | (_, v) :: fs => v.toYDB :: fieldsToYDB fs

/-- The encoded `(Key, Payload)` pairs of a dict, in stored order. -/
def pairsToYDB : List (Value × Value) → List (Ydb.Value × Ydb.Value)
  | [] => []
  | (k, v) :: ps => (k.toYDB, v.toYDB) :: pairsToYDB ps
end

/-- A container's items are encoded one by one, in order. -/
@[simp] theorem itemsToYDB_eq_map (vs : List Value) : itemsToYDB vs = vs.map toYDB := by
  induction vs with
  | nil => simp [itemsToYDB, fieldsToYDB, pairsToYDB]
  | cons v vs ih => simp [itemsToYDB, ih]

/-- A struct's fields are encoded by their values alone, in order; the names travel in the type. -/
@[simp] theorem fieldsToYDB_eq_map (fs : List (GoString × Value)) :
    fieldsToYDB fs = fs.map fun f => f.2.toYDB := by
  induction fs with
  | nil => simp [itemsToYDB, fieldsToYDB, pairsToYDB]
  | cons f fs ih => obtain ⟨_, _⟩ := f; simp [fieldsToYDB, ih]

/-- A dict's pairs are encoded key and payload, in order. -/
@[simp] theorem pairsToYDB_eq_map (ps : List (Value × Value)) :
    pairsToYDB ps = ps.map fun p => (p.1.toYDB, p.2.toYDB) := by
  induction ps with
  | nil => simp [itemsToYDB, fieldsToYDB, pairsToYDB]
  | cons p ps ih => obtain ⟨_, _⟩ := p; simp [pairsToYDB, ih]

end Value

/-- `ToYDB(v, a)`: the value's type and payload, as the package sends them. -/
def ToYDB (v : Value) : Ydb.Ty × Ydb.Value := (v.type.toYDB, v.toYDB)

end YdbSdk
