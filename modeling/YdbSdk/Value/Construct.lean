import YdbSdk.Value.Render

/-!
# Constructing Values

The exported constructors of composite values. They are where the package
canonicalizes: `StructValue` sorts its fields by name and `DictValue` sorts its
pairs by the rendering of their keys, both with Go's `sort.Slice`
(`Runtime.sortSlice`). They are also where it could check that a value's
payload has the value's type, and mostly does not: `ListValue` compares each
item's type with itself, `DictValue` reads its types off the first pair, and
the variant constructors accept any index.

`sort.Slice` calls the comparison only when there are at least two elements,
and any comparison sort must look at every element then, so `DictValue`
renders every key exactly when it has two pairs or more; a key whose
rendering panics makes `DictValue` panic.

The scalar constructors (`BoolValue`, `Int32Value`, …) convert their argument
and nothing else; in the model they are the constructors of `Scalar`.

## Main definitions

* `ListValue`, `TupleValue`, `StructValue`, `DictValue`: The container constructors.
* `NullValue`, `OptionalValue`: The two optional constructors.
* `VariantValue`, `VariantValueStruct`, `VariantValueTuple`: The variant constructors.
* `DecimalValue`, `UUIDValue`, `VoidValue`: The remaining non-scalar values.
* `DateValueFromTime`, `DatetimeValueFromTime`, `TimestampValueFromTime`: The
  temporal scalars of a `time.Time`.
* `TzDateValueFromTime`, `TzDatetimeValueFromTime`, `TzTimestampValueFromTime`:
  The time-zoned scalars of a `time.Time`, as the text of its layout.

## Theorems

* `ListValue_eq`: `ListValue` never panics: its type check compares each item's
  type with itself.
* `sortByKey_eq`: With two pairs or more whose keys all render, `DictValue`'s
  sort is `sort.Slice` of the pairs keyed by those renderings.
-/

namespace YdbSdk

open GoString

variable (rt : Runtime)

/-- `ListValue(items...)`: the type is `List` of the first item's type, or
    `EmptyList()`; the loop then checks `v.Type().equalsTo(v.Type())`. -/
def ListValue (items : List Value) : Result Value :=
  let t := match items with
    | [] => Ty.emptyListType
    | v :: _ => .listType v.type
  if items.all fun v => v.type.equalsTo v.type then .ok (.listValue t items)
  else .error (.panic "different types of items")

/-- `ListValue` never fails: its item check compares each item's type with itself. -/
theorem ListValue_eq (items : List Value) :
    ListValue items = .ok (.listValue (match items with
      | [] => .emptyListType
      | v :: _ => .listType v.type) items) := by
  simp [ListValue]

/-- `NullValue(t)`: the NULL of `Optional(t)`. -/
def NullValue (t : Ty) : Value := .optionalValue (.optionalType t) none

/-- `OptionalValue(v)`: `v` wrapped in `Optional(v.Type())`. -/
def OptionalValue (v : Value) : Value := .optionalValue (.optionalType v.type) (some v)

/-- `TupleValue(values...)`: the type is the tuple of the values' types. -/
def TupleValue (values : List Value) : Value := .tupleValue (values.map Value.type) values

/-- `StructValue(fields...)`: the fields sorted by name, and the struct type of
    their names and types in that order. -/
def StructValue (fields : List (GoString × Value)) : Value :=
  let fields := rt.sortSlice Prod.fst fields
  .structValue (fields.map fun f => (f.1, f.2.type)) fields

/-- The struct of no fields. -/
@[simp] theorem StructValue_nil : StructValue rt [] = .structValue [] [] := by
  rw [StructValue, (rt.sortSlice_perm Prod.fst []).eq_nil]
  rfl

/-- With the member names strictly ascending, `StructValue` keeps the fields
    where they are. -/
theorem StructValue_of_sorted {fields : List (GoString × Value)}
    (h : (fields.map Prod.fst).Sorted (· < ·)) :
    StructValue rt fields = .structValue (fields.map fun f => (f.1, f.2.type)) fields := by
  rw [StructValue, rt.sortSlice_eq_self Prod.fst (List.pairwise_map.mp h)]

/-- The `sort.Slice` of `DictValue`: with two pairs or more, every key is
    rendered by `toString()`, and the pairs are sorted by those renderings. -/
def sortByKey (values : List (Value × Value)) : Result (List (Value × Value)) :=
  if values.length < 2 then .ok values
  else do
    let keyed ← values.mapM fun p => do return ((← p.1.toString rt), p)
    return (rt.sortSlice Prod.fst keyed).map Prod.snd

/-- With two pairs or more whose keys render without a panic, `sortByKey` sorts the pairs by
    those renderings. -/
theorem sortByKey_eq {values : List (Value × Value)} (render : Value → GoString)
    (hr : ∀ p ∈ values, p.1.toString rt = .ok (render p.1)) (h2 : 2 ≤ values.length) :
    sortByKey rt values =
      .ok ((rt.sortSlice Prod.fst (values.map fun p => (render p.1, p))).map Prod.snd) := by
  rw [sortByKey, if_neg (by omega),
    Result.mapM_eq_ok (fun p => (render p.1, p)) fun p hp => by rw [hr p hp]; rfl]
  rfl

/-- What `sortByKey` renders: every key, paired with its pair. -/
theorem mapM_keyed_eq {values : List (Value × Value)} {keys : List GoString}
    (hk : values.map (fun p => p.1.toString rt) = keys.map .ok) :
    values.mapM (fun p => do return ((← p.1.toString rt), p)) = .ok (keys.zip values) := by
  induction values generalizing keys with
  -- No pairs render to no keys.
  | nil => cases keys with
    | nil => rfl
    | cons => simp at hk
  | cons p ps ih =>
    cases keys with
    | nil => simp at hk
    -- The first key's rendering, then the rest's.
    | cons k keys =>
      simp only [List.map_cons, List.cons.injEq] at hk
      rw [List.mapM_cons, hk.1, ih hk.2]; rfl

/-- Pairs whose keys render, in order, to strictly ascending strings are left
    as they are. -/
theorem sortByKey_eq_self {values : List (Value × Value)} {keys : List GoString}
    (hk : values.map (fun p => p.1.toString rt) = keys.map .ok) (hs : keys.Sorted (· < ·)) :
    sortByKey rt values = .ok values := by
  have hl : keys.length = values.length := by simpa using (congrArg List.length hk).symm
  unfold sortByKey
  split
  · rfl
  · have hsorted : (keys.zip values).Sorted fun a b => a.1 < b.1 :=
      List.pairwise_map.mp (by rw [List.map_fst_zip _ _ hl.le]; exact hs)
    rw [mapM_keyed_eq rt hk]
    simp [rt.sortSlice_eq_self Prod.fst hsorted, List.map_snd_zip _ _ hl.ge]

/-- Rendering a key keeps its pair. -/
theorem keyed_map_snd {values : List (Value × Value)} {keyed : List (GoString × (Value × Value))}
    (h : List.Forall₂ (fun p k => (do return ((← p.1.toString rt), p)) = Except.ok k)
      values keyed) :
    keyed.map Prod.snd = values := by
  induction h with
  | nil => rfl
  | @cons p k _ _ hp _ ih =>
    cases hs : p.1.toString rt with
    | error e => rw [hs] at hp; cases hp
    | ok s => rw [hs] at hp; cases hp; simp [ih]

/-- `sortByKey` only reorders the pairs. -/
theorem sortByKey_perm {values sorted : List (Value × Value)}
    (h : sortByKey rt values = .ok sorted) :
    sorted.Perm values := by
  unfold sortByKey at h
  split at h
  · cases h; rfl
  · cases hk : values.mapM (fun p => do return ((← p.1.toString rt), p)) with
    | error e => rw [hk] at h; cases h
    | ok keyed =>
      rw [hk] at h; cases h
      exact keyed_map_snd rt (Result.mapM_ok_forall₂ hk) ▸
        (rt.sortSlice_perm Prod.fst keyed).map Prod.snd

/-- `DictValue(values...)`: the pairs sorted by key rendering, and the dict type
    of the first pair's key and payload types. An empty call reads `values[0]`
    out of range and panics. -/
def DictValue (values : List (Value × Value)) : Result Value := do
  let values ← sortByKey rt values
  match values with
  | [] => .error (.panic "runtime error: index out of range [0] with length 0")
  | (k, v) :: _ => .ok (.dictValue (.dictType k.type v.type) values)

/-- `VariantValue(v, idx, t)`: the type is `Variant(t)`, which panics unless `t`
    is a tuple or struct type; neither `v` nor `idx` is checked. -/
def VariantValue (v : Value) (idx : BitVec 32) (t : Ty) : Result Value := do
  return .variantValue (← Variant t) v idx

/-- `VariantValueStruct(v, idx)`: `v` must be a struct value; `idx` is not checked. -/
def VariantValueStruct (v : Value) (idx : BitVec 32) : Result Value :=
  match v with
  | .structValue t _ => .ok (.variantValue (.variantStructType t) v idx)
  | _ => .error (.panic "value must be a struct type")

/-- `VariantValueTuple(v, idx)`: `v` must be a tuple value; `idx` is not checked. -/
def VariantValueTuple (v : Value) (idx : BitVec 32) : Result Value :=
  match v with
  | .tupleValue t _ => .ok (.variantValue (.variantTupleType t) v idx)
  | _ => .error (.panic "value must be a tuple type")

/-- A variant of a struct value, of the struct's variant type. -/
@[simp] theorem VariantValueStruct_structValue (t : List (GoString × Ty))
    (fs : List (GoString × Value)) (idx : BitVec 32) :
    VariantValueStruct (.structValue t fs) idx =
      .ok (.variantValue (.variantStructType t) (.structValue t fs) idx) := rfl

/-- A variant of a tuple value, of the tuple's variant type. -/
@[simp] theorem VariantValueTuple_tupleValue (t : List Ty) (vs : List Value) (idx : BitVec 32) :
    VariantValueTuple (.tupleValue t vs) idx =
      .ok (.variantValue (.variantTupleType t) (.tupleValue t vs) idx) := rfl

/-- `DecimalValue(v, precision, scale)`. -/
def DecimalValue (v : Bytes16) (precision scale : BitVec 32) : Value :=
  .decimalValue v precision scale

/-- `UUIDValue(v)`. -/
def UUIDValue (v : Bytes16) : Value := .scalar (.uuidValue v)

/-- `VoidValue()`. -/
def VoidValue : Value := .voidValue

/-- `DateValueFromTime(t)`: `dateValue(uint64(t.Sub(epoch)/time.Second) / secondsPerDay)`,
    the `int64` of seconds read as a `uint64`, divided, and narrowed to `uint32`. -/
def DateValueFromTime (t : GoTime) : Value :=
  .scalar (.dateValue ((((t.Sub epoch).sdiv Second) / secondsPerDay).setWidth 32))

/-- `DatetimeValueFromTime(t)`: `datetimeValue(t.Unix())`, narrowed to `uint32`. -/
def DatetimeValueFromTime (t : GoTime) : Value :=
  .scalar (.datetimeValue (t.Unix.setWidth 32))

/-- `TimestampValueFromTime(t)`: `timestampValue(t.Sub(epoch) / time.Microsecond)`,
    the `int64` of microseconds read as a `uint64`. -/
def TimestampValueFromTime (t : GoTime) : Value :=
  .scalar (.timestampValue ((t.Sub epoch).sdiv Microsecond))

/-- `TzDateValueFromTime(t)`: `tzDateValue(t.Format(LayoutDate))`. -/
def TzDateValueFromTime (t : GoTime) : Value := .scalar (.tzDateValue (rt.formatDate t))

/-- `TzDatetimeValueFromTime(t)`: `tzDatetimeValue(t.Format(LayoutDatetime))`. -/
def TzDatetimeValueFromTime (t : GoTime) : Value :=
  .scalar (.tzDatetimeValue (rt.formatDatetime t))

/-- `TzTimestampValueFromTime(t)`: `tzTimestampValue(t.Format(LayoutTimestamp))`. -/
def TzTimestampValueFromTime (t : GoTime) : Value :=
  .scalar (.tzTimestampValue (rt.formatTimestamp t))

end YdbSdk
