import YdbSdk.Go

/-!
# The Wire Schema

The two protobuf messages the value package reads and writes, `Ydb.Type` and
`Ydb.Value`, as the generated Go code has them. They come from the
`ydb-go-genproto` dependency, not from this repository, and only their shape
matters here.

A protobuf message has every field at once, set or not, so `Ydb.Value` is a
record: the oneof `value` (unset, or one leaf, a `NullFlag`, a nested value or
the low half of a 128-bit number), the repeated `items` and `pairs`, the
`variant_index` and the `high_128` half. Keeping all of them is what lets the
model see the encoder drop fields: `optionalValue.toYDB` copies only the oneof.

A `Ydb.Type` is its oneof. `VariantType`'s own oneof is flattened into two
constructors, one per kind of member list.

## Main definitions

* `Ydb.PrimitiveTypeId`: The primitive type tags.
* `Ydb.Ty`: The message `Ydb.Type`.
* `Ydb.ValueOneof`, `Ydb.Value`: The message `Ydb.Value` and its oneof.
* `Ydb.Value.leaf`: A value that sets only its oneof.
* `Ydb.Value.GetInt32Value` and the other getters: The generated accessors,
  which read the zero value when another member of the oneof is set.
-/

namespace YdbSdk

namespace Ydb

/-- `Ydb.Type_PrimitiveTypeId`. -/
inductive PrimitiveTypeId where
  | BOOL | INT8 | UINT8 | INT16 | UINT16 | INT32 | UINT32 | INT64 | UINT64
  | FLOAT | DOUBLE | DATE | DATETIME | TIMESTAMP | INTERVAL
  | TZ_DATE | TZ_DATETIME | TZ_TIMESTAMP | STRING | UTF8 | YSON | JSON | UUID
  | JSON_DOCUMENT | DYNUMBER
  deriving DecidableEq, Repr

/-- `Ydb.Type`, given by which member of its oneof `type` is set. -/
inductive Ty where
  | typeId (id : PrimitiveTypeId)
  | decimalType (precision scale : BitVec 32)
  | optionalType (item : Ty)
  | listType (item : Ty)
  | tupleType (elements : List Ty)
  | structType (members : List (GoString × Ty))
  | dictType (key payload : Ty)
  /-- `VariantType` with its oneof set to `tuple_items`. -/
  | variantTupleItems (elements : List Ty)
  /-- `VariantType` with its oneof set to `struct_items`. -/
  | variantStructItems (members : List (GoString × Ty))
  | voidType
  | nullType
  | emptyListType
  | emptyDictType

/-- The oneof `value` of `Ydb.Value`, over the type of the nested message. -/
inductive ValueOneof (V : Type) where
  /-- No member is set: the Go field is `nil`. -/
  | none
  | boolValue (v : Bool)
  | int32Value (v : BitVec 32)
  | uint32Value (v : BitVec 32)
  | int64Value (v : BitVec 64)
  | uint64Value (v : BitVec 64)
  | floatValue (v : BitVec 32)
  | doubleValue (v : BitVec 64)
  | bytesValue (v : List UInt8)
  | textValue (v : GoString)
  | nullFlagValue
  | nestedValue (v : V)
  | low128 (v : BitVec 64)

/-- `Ydb.Value`. `pairs` holds `ValuePair{Key, Payload}` as pairs. -/
structure Value where
  value : ValueOneof Value
  items : List Value
  pairs : List (Value × Value)
  variantIndex : BitVec 32 := 0
  high128 : BitVec 64 := 0

namespace Value

/-- `a.Value()` with only its oneof set, as every leaf encoder builds it. -/
def leaf (x : ValueOneof Value) : Value := { value := x, items := [], pairs := [] }

/-- `v.GetBoolValue()`. -/
def GetBoolValue (v : Value) : Bool := match v.value with | .boolValue x => x | _ => false

/-- `v.GetInt32Value()`. -/
def GetInt32Value (v : Value) : BitVec 32 := match v.value with | .int32Value x => x | _ => 0

/-- `v.GetUint32Value()`. -/
def GetUint32Value (v : Value) : BitVec 32 := match v.value with | .uint32Value x => x | _ => 0

/-- `v.GetInt64Value()`. -/
def GetInt64Value (v : Value) : BitVec 64 := match v.value with | .int64Value x => x | _ => 0

/-- `v.GetUint64Value()`. -/
def GetUint64Value (v : Value) : BitVec 64 := match v.value with | .uint64Value x => x | _ => 0

/-- `v.GetFloatValue()`. -/
def GetFloatValue (v : Value) : BitVec 32 := match v.value with | .floatValue x => x | _ => 0

/-- `v.GetDoubleValue()`. -/
def GetDoubleValue (v : Value) : BitVec 64 := match v.value with | .doubleValue x => x | _ => 0

/-- `v.GetTextValue()`. -/
def GetTextValue (v : Value) : GoString := match v.value with | .textValue x => x | _ => []

/-- `v.GetBytesValue()`. -/
def GetBytesValue (v : Value) : List UInt8 := match v.value with | .bytesValue x => x | _ => []

/-- `v.GetLow_128()`. -/
def GetLow_128 (v : Value) : BitVec 64 := match v.value with | .low128 x => x | _ => 0

end Value

end Ydb

end YdbSdk
