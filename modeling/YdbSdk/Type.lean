import YdbSdk.Wire

/-!
# The Type Registry

The in-memory description of a YDB type, its conversions to and from the wire,
its equality and its text. The package's `type.go` is not under `src/`, so the
constructors and conversions here are modelled from the spec (§3, §4.2, §6);
`value.go` only reveals which Go types implement `Type` and which of them are
values and which pointers.

Every `Ty` is one a Go caller can build. A Go `variantType` pairs an inner
type with a tag saying whether it is a tuple or a struct, and `Variant` refuses
anything else; here the pair is one constructor per tag, holding the members,
so an inconsistent variant cannot be written down. The same goes for the two
kinds of member lists a variant can have on the wire.

Go's `*voidType` and `voidType` are different dynamic types, and only the value
`voidType{}` is ever built (the package's own `_voidValueType`). `Ty.voidType`
is that value; `ZeroValue`'s `case *voidType:` matches no `Ty` at all.

`TypeFromYDB` inverts `toYDB` (`TypeFromYDB_toYDB`). The decoder leans on this:
it re-encodes an element type and decodes it again at every level.

## Main definitions

* `PrimitiveType`, `Ty`: The primitive types and all types.
* `Ty.toYDB`, `TypeFromYDB`: The conversions to and from `Ydb.Ty`.
* `Variant`: The variant constructor, which panics on a non-tuple non-struct.
* `Ty.equalsTo`: Structural equality.
* `Ty.string`: The textual form, `List<Int32>`, `Struct<a:Int32,b:Text>`.

## Theorems

* `TypeFromYDB_toYDB`: Decoding an encoded type gives it back.
* `Ty.equalsTo_iff`: `equalsTo` is equality, so types compare equal exactly when
  they are structurally identical.
-/

namespace YdbSdk

/-- `PrimitiveType`: the constants `TypeBool` through `TypeDyNumber`. -/
inductive PrimitiveType where
  | TypeBool | TypeInt8 | TypeUint8 | TypeInt16 | TypeUint16 | TypeInt32 | TypeUint32
  | TypeInt64 | TypeUint64 | TypeFloat | TypeDouble | TypeDate | TypeDatetime
  | TypeTimestamp | TypeInterval | TypeTzDate | TypeTzDatetime | TypeTzTimestamp
  | TypeBytes | TypeText | TypeYSON | TypeJSON | TypeUUID | TypeJSONDocument | TypeDyNumber
  deriving DecidableEq, Repr

/-- The Go interface `Type`, one constructor per implementing type. -/
inductive Ty where
  | primitive (t : PrimitiveType)
  | optionalType (innerType : Ty)
  | listType (itemType : Ty)
  | emptyListType
  /-- `*TupleType`. -/
  | tupleType (items : List Ty)
  /-- `*StructType`; a `StructField{Name, T}` is a pair. -/
  | structType (fields : List (GoString × Ty))
  | dictType (keyType valueType : Ty)
  | emptyDictType
  /-- `*DecimalType`. -/
  | decimalType (Precision Scale : BitVec 32)
  /-- `*variantType` over a tuple: `innerType` is `Tuple(items...)`, the tag `variantTypeTuple`. -/
  | variantTupleType (items : List Ty)
  /-- `*variantType` over a struct: `innerType` is `Struct(fields...)`, the tag `variantTypeStruct`. -/
  | variantStructType (fields : List (GoString × Ty))
  /-- The value `voidType{}`. -/
  | voidType
  /-- The value `nullType{}`. -/
  | nullType

namespace PrimitiveType

/-- Modelled from the spec: the wire tag of a primitive type. -/
def toYDB : PrimitiveType → Ydb.PrimitiveTypeId
  | TypeBool => .BOOL | TypeInt8 => .INT8 | TypeUint8 => .UINT8 | TypeInt16 => .INT16
  | TypeUint16 => .UINT16 | TypeInt32 => .INT32 | TypeUint32 => .UINT32
  | TypeInt64 => .INT64 | TypeUint64 => .UINT64 | TypeFloat => .FLOAT
  | TypeDouble => .DOUBLE | TypeDate => .DATE | TypeDatetime => .DATETIME
  | TypeTimestamp => .TIMESTAMP | TypeInterval => .INTERVAL | TypeTzDate => .TZ_DATE
  | TypeTzDatetime => .TZ_DATETIME | TypeTzTimestamp => .TZ_TIMESTAMP
  | TypeBytes => .STRING | TypeText => .UTF8 | TypeYSON => .YSON | TypeJSON => .JSON
  | TypeUUID => .UUID | TypeJSONDocument => .JSON_DOCUMENT | TypeDyNumber => .DYNUMBER

/-- Modelled from the spec: the primitive type of a wire tag. -/
def primitiveTypeFromYDB : Ydb.PrimitiveTypeId → PrimitiveType
  | .BOOL => TypeBool | .INT8 => TypeInt8 | .UINT8 => TypeUint8 | .INT16 => TypeInt16
  | .UINT16 => TypeUint16 | .INT32 => TypeInt32 | .UINT32 => TypeUint32
  | .INT64 => TypeInt64 | .UINT64 => TypeUint64 | .FLOAT => TypeFloat
  | .DOUBLE => TypeDouble | .DATE => TypeDate | .DATETIME => TypeDatetime
  | .TIMESTAMP => TypeTimestamp | .INTERVAL => TypeInterval | .TZ_DATE => TypeTzDate
  | .TZ_DATETIME => TypeTzDatetime | .TZ_TIMESTAMP => TypeTzTimestamp
  | .STRING => TypeBytes | .UTF8 => TypeText | .YSON => TypeYSON | .JSON => TypeJSON
  | .UUID => TypeUUID | .JSON_DOCUMENT => TypeJSONDocument | .DYNUMBER => TypeDyNumber

/-- Every primitive type comes back from its wire type id. -/
@[simp] theorem primitiveTypeFromYDB_toYDB (t : PrimitiveType) :
    primitiveTypeFromYDB t.toYDB = t := by
  cases t <;> rfl

/-- Modelled from the spec: `t.String()`, the type's name. -/
def string (t : PrimitiveType) : GoString := GoString.lit <| match t with
  | TypeBool => "Bool" | TypeInt8 => "Int8" | TypeUint8 => "Uint8" | TypeInt16 => "Int16"
  | TypeUint16 => "Uint16" | TypeInt32 => "Int32" | TypeUint32 => "Uint32"
  | TypeInt64 => "Int64" | TypeUint64 => "Uint64" | TypeFloat => "Float"
  | TypeDouble => "Double" | TypeDate => "Date" | TypeDatetime => "Datetime"
  | TypeTimestamp => "Timestamp" | TypeInterval => "Interval" | TypeTzDate => "TzDate"
  | TypeTzDatetime => "TzDatetime" | TypeTzTimestamp => "TzTimestamp"
  | TypeBytes => "Bytes" | TypeText => "Text" | TypeYSON => "YSON" | TypeJSON => "JSON"
  | TypeUUID => "UUID" | TypeJSONDocument => "JSONDocument" | TypeDyNumber => "DyNumber"

end PrimitiveType

open PrimitiveType in
/-- Modelled from the spec: `Variant(t)` takes the tag from `t` and panics unless
    `t` is a tuple or a struct type. -/
def Variant : Ty → Result Ty
  | .tupleType items => .ok (.variantTupleType items)
  | .structType fields => .ok (.variantStructType fields)
  | _ => .error (.panic "unsupported type for variant")

namespace Ty

mutual
/-- Modelled from the spec: `t.toYDB(a)`, the wire description of a type. -/
def toYDB : Ty → Ydb.Ty
  | .primitive t => .typeId t.toYDB
  | .optionalType t => .optionalType t.toYDB
  | .listType t => .listType t.toYDB
  | .emptyListType => .emptyListType
  | .tupleType items => .tupleType (itemsToYDB items)
  | .structType fields => .structType (fieldsToYDB fields)
  | .dictType k v => .dictType k.toYDB v.toYDB
  | .emptyDictType => .emptyDictType
  | .decimalType p s => .decimalType p s
  | .variantTupleType items => .variantTupleItems (itemsToYDB items)
  | .variantStructType fields => .variantStructItems (fieldsToYDB fields)
  | .voidType => .voidType
  | .nullType => .nullType

/-- `toYDB` of each tuple member. -/
def itemsToYDB : List Ty → List Ydb.Ty
  | [] => []
  | t :: ts => t.toYDB :: itemsToYDB ts

/-- `toYDB` of each struct member, keeping its name. -/
def fieldsToYDB : List (GoString × Ty) → List (GoString × Ydb.Ty)
  | [] => []
  | (n, t) :: fs => (n, t.toYDB) :: fieldsToYDB fs
end

end Ty

mutual
/-- Modelled from the spec: `TypeFromYDB(t)`, the inverse of `toYDB`. -/
def TypeFromYDB : Ydb.Ty → Ty
  | .typeId id => .primitive (PrimitiveType.primitiveTypeFromYDB id)
  | .decimalType p s => .decimalType p s
  | .optionalType t => .optionalType (TypeFromYDB t)
  | .listType t => .listType (TypeFromYDB t)
  | .tupleType es => .tupleType (TypesFromYDB es)
  | .structType ms => .structType (StructFieldsFromYDB ms)
  | .dictType k v => .dictType (TypeFromYDB k) (TypeFromYDB v)
  | .variantTupleItems es => .variantTupleType (TypesFromYDB es)
  | .variantStructItems ms => .variantStructType (StructFieldsFromYDB ms)
  | .voidType => .voidType
  | .nullType => .nullType
  | .emptyListType => .emptyListType
  | .emptyDictType => .emptyDictType

/-- `TypeFromYDB` of each tuple element. -/
def TypesFromYDB : List Ydb.Ty → List Ty
  | [] => []
  | t :: ts => TypeFromYDB t :: TypesFromYDB ts

/-- `TypeFromYDB` of each struct member, keeping its name. -/
def StructFieldsFromYDB : List (GoString × Ydb.Ty) → List (GoString × Ty)
  | [] => []
  | (n, t) :: ms => (n, TypeFromYDB t) :: StructFieldsFromYDB ms
end

mutual
/-- Every type comes back from its wire description: `TypeFromYDB` inverts `toYDB`. -/
theorem TypeFromYDB_toYDB : ∀ t : Ty, TypeFromYDB t.toYDB = t
  | .primitive _ | .emptyListType | .emptyDictType | .decimalType _ _ | .voidType | .nullType => by
    simp [Ty.toYDB, TypeFromYDB]
  | .optionalType t | .listType t => by simp [Ty.toYDB, TypeFromYDB, TypeFromYDB_toYDB t]
  | .dictType k v => by simp [Ty.toYDB, TypeFromYDB, TypeFromYDB_toYDB k, TypeFromYDB_toYDB v]
  | .tupleType ts | .variantTupleType ts => by
    simp [Ty.toYDB, TypeFromYDB, TypesFromYDB_itemsToYDB ts]
  | .structType fs | .variantStructType fs => by
    simp [Ty.toYDB, TypeFromYDB, StructFieldsFromYDB_fieldsToYDB fs]

/-- The tuple members come back from their wire descriptions, in order. -/
theorem TypesFromYDB_itemsToYDB : ∀ ts : List Ty, TypesFromYDB (Ty.itemsToYDB ts) = ts
  | [] => rfl
  | t :: ts => by
    simp [Ty.itemsToYDB, TypesFromYDB, TypeFromYDB_toYDB t, TypesFromYDB_itemsToYDB ts]

/-- The struct members come back from their wire descriptions, names and order kept. -/
theorem StructFieldsFromYDB_fieldsToYDB :
    ∀ fs : List (GoString × Ty), StructFieldsFromYDB (Ty.fieldsToYDB fs) = fs
  | [] => rfl
  | (_, t) :: fs => by
    simp [Ty.fieldsToYDB, StructFieldsFromYDB, TypeFromYDB_toYDB t,
      StructFieldsFromYDB_fieldsToYDB fs]
end

namespace Ty

mutual
/-- Modelled from the spec: `t.equalsTo(rhs)`, structural equality. -/
def equalsTo : Ty → Ty → Bool
  | .primitive a, b => match b with | .primitive b => a == b | _ => false
  | .optionalType a, b => match b with | .optionalType b => a.equalsTo b | _ => false
  | .listType a, b => match b with | .listType b => a.equalsTo b | _ => false
  | .emptyListType, b => match b with | .emptyListType => true | _ => false
  | .tupleType as, b => match b with | .tupleType bs => itemsEqualTo as bs | _ => false
  | .structType as, b => match b with | .structType bs => fieldsEqualTo as bs | _ => false
  | .dictType k v, b => match b with
    | .dictType k' v' => k.equalsTo k' && v.equalsTo v'
    | _ => false
  | .emptyDictType, b => match b with | .emptyDictType => true | _ => false
  | .decimalType p s, b => match b with
    | .decimalType p' s' => p == p' && s == s'
    | _ => false
  | .variantTupleType as, b => match b with
    | .variantTupleType bs => itemsEqualTo as bs
    | _ => false
  | .variantStructType as, b => match b with
    | .variantStructType bs => fieldsEqualTo as bs
    | _ => false
  | .voidType, b => match b with | .voidType => true | _ => false
  | .nullType, b => match b with | .nullType => true | _ => false

/-- Member-wise `equalsTo` of two tuple member lists. -/
def itemsEqualTo : List Ty → List Ty → Bool
  | [], bs => bs.isEmpty
  | a :: as, bs => match bs with
    | b :: bs => a.equalsTo b && itemsEqualTo as bs
    | [] => false

/-- Member-wise comparison of two struct member lists, names and types. -/
def fieldsEqualTo : List (GoString × Ty) → List (GoString × Ty) → Bool
  | [], bs => bs.isEmpty
  | (n, a) :: as, bs => match bs with
    | (m, b) :: bs => n == m && a.equalsTo b && fieldsEqualTo as bs
    | [] => false
end

mutual
/-- `equalsTo` is structural equality of types. -/
theorem equalsTo_iff : ∀ a b : Ty, a.equalsTo b = true ↔ a = b
  | .primitive _, b | .emptyListType, b | .emptyDictType, b | .decimalType _ _, b
  | .voidType, b | .nullType, b => by cases b <;> simp [equalsTo]
  | .optionalType a, b | .listType a, b => by cases b <;> simp [equalsTo, equalsTo_iff a]
  | .dictType k v, b => by cases b <;> simp [equalsTo, equalsTo_iff k, equalsTo_iff v]
  | .tupleType as, b | .variantTupleType as, b => by
    cases b <;> simp [equalsTo, itemsEqualTo_iff as]
  | .structType as, b | .variantStructType as, b => by
    cases b <;> simp [equalsTo, fieldsEqualTo_iff as]

/-- `itemsEqualTo` is equality of member lists. -/
theorem itemsEqualTo_iff : ∀ as bs : List Ty, itemsEqualTo as bs = true ↔ as = bs
  | [], bs => by cases bs <;> simp [itemsEqualTo]
  | a :: as, bs => by cases bs <;> simp [itemsEqualTo, equalsTo_iff a, itemsEqualTo_iff as]

/-- `fieldsEqualTo` is equality of named member lists, names and order included. -/
theorem fieldsEqualTo_iff :
    ∀ as bs : List (GoString × Ty), fieldsEqualTo as bs = true ↔ as = bs
  | [], bs => by cases bs <;> simp [fieldsEqualTo]
  | (n, a) :: as, [] => by simp [fieldsEqualTo]
  | (n, a) :: as, (m, b) :: bs => by
    simp [fieldsEqualTo, equalsTo_iff a, fieldsEqualTo_iff as, and_assoc]
end

instance : DecidableEq Ty := fun a b => decidable_of_iff _ (equalsTo_iff a b)

/-- Every type `equalsTo` itself, so the check `ListValue` makes always passes. -/
@[simp] theorem equalsTo_self (t : Ty) : t.equalsTo t = true := (equalsTo_iff t t).mpr rfl

open GoString in
mutual
/-- Modelled from the spec: `t.String()`, the textual form of a type. -/
def string : Ty → GoString
  | .primitive t => t.string
  | .optionalType t => lit "Optional<" ++ t.string ++ lit ">"
  | .listType t => lit "List<" ++ t.string ++ lit ">"
  | .emptyListType => lit "EmptyList"
  | .tupleType items => lit "Tuple<" ++ itemsString items ++ lit ">"
  | .structType fields => lit "Struct<" ++ fieldsString fields ++ lit ">"
  | .dictType k v => lit "Dict<" ++ k.string ++ lit "," ++ v.string ++ lit ">"
  | .emptyDictType => lit "EmptyDict"
  | .decimalType p s =>
    lit "Decimal(" ++ FormatUint p.toNat ++ lit "," ++ FormatUint s.toNat ++ lit ")"
  | .variantTupleType items => lit "Variant<" ++ itemsString items ++ lit ">"
  | .variantStructType fields => lit "Variant<" ++ fieldsString fields ++ lit ">"
  | .voidType => lit "Void"
  | .nullType => lit "Null"

/-- The members of a tuple type, comma-separated. -/
def itemsString : List Ty → GoString
  | [] => []
  | t :: ts => match ts with
    | [] => t.string
    | _ :: _ => t.string ++ lit "," ++ itemsString ts

/-- The members of a struct type as `name:Type`, comma-separated. -/
def fieldsString : List (GoString × Ty) → GoString
  | [] => []
  | (n, t) :: fs => match fs with
    | [] => n ++ lit ":" ++ t.string
    | _ :: _ => n ++ lit ":" ++ t.string ++ lit "," ++ fieldsString fs
end

end Ty

end YdbSdk
