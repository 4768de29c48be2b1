import YdbSdk.Value.Codec

/-!
# Zeros on the Wire

Two ways a zero meets the codec.

The first is on the way in. `primitiveValueFromYDB` reads a payload through the
generated getters, and a getter returns the zero of its kind when the oneof
holds another member or none. So at every primitive type but YSON the decoder
takes any payload at all and makes a value of that type from it: a leaf of
another kind, a NULL flag, a nested value and an unset oneof are all accepted.
Only the YSON case switches on the member itself, and its default is an error,
which `FromYDB` re-raises as a panic (`FromYDB_primitive`). `nullValueFromYDB`
does not step in first, since it finds a NULL only at an optional or a Void
type (`nullValueFromYDB_primitive`).

Proto3 sends a zero by leaving the field out, and the decoder reads it the same
way: a payload with no leaf decodes to exactly what `ZeroValue` makes of its
type (`FromYDB_noLeaf`). A NULL sent for a primitive column that is not optional
therefore arrives as that type's zero, indistinguishable from a zero that was
sent, except at YSON, where it panics. The one field outside the oneof,
`high_128`, is read by the UUID case directly, so the payload must not set it.

The second is the round trip of `ZeroValue`'s own values. Its zero of a list
or a dict type is the container with no elements, the one shape the decoder
does not rebuild: an empty list comes back with the type `EmptyList`, and an
empty dict makes `DictValue` index its first pair and panic
(`FromYDB_ToYDB_ZeroValue_collection`). Every other zero comes back as itself,
at every type `ZeroValue` builds exactly (`Ty.zeroReady`) that has no list or
dict among the members it recurses into (`FromYDB_ToYDB_ZeroValue`).

## Main definitions

* `Ty.collectionFree`: No list or dict among the members `ZeroValue` recurses into.

## Theorems

* `nullValueFromYDB_primitive`: No payload is a NULL at a primitive type.
* `FromYDB_typeId`: At a primitive type, `FromYDB` is `primitiveValueFromYDB`.
* `primitiveValueFromYDB_type`: Every payload gives a value of the type, or the
  YSON error.
* `FromYDB_primitive`: The same for the exported decoder at a wire type.
* `FromYDB_noLeaf`: A payload without a leaf decodes to the type's `ZeroValue`.
* `ZeroValue_readsBack`: A zero without lists and dicts has the shape the decoder
  rebuilds.
* `FromYDB_ToYDB_ZeroValue`: Such a zero comes back from the wire as itself.
* `FromYDB_ToYDB_ZeroValue_collection`: The zero list loses its type, and the
  zero dict panics.
-/

namespace YdbSdk

open PrimitiveType

/-- `nullValueFromYDB` answers only at optional and Void types. -/
theorem nullValueFromYDB_primitive (w : Ydb.Value) (p : PrimitiveType) :
    nullValueFromYDB w (.primitive p) = none := by
  cases h : nullValueFromYDB w (.primitive p) with
  | none => rfl
  | some vv => rcases nullValueFromYDB_eq_some h with ⟨_, h1, _⟩ | ⟨h1, _⟩ <;> cases h1

/-- The join of two zero halves is the zero array. -/
theorem BigEndianUint128_zero : BigEndianUint128 0 0 = Bytes16.zero := rfl

variable (rt : Runtime)

/-- `FromYDB` at a primitive wire type reads the leaf, and passes on a value or re-raises an
    error as a panic. -/
theorem FromYDB_typeId (id : Ydb.PrimitiveTypeId) (w : Ydb.Value) :
    FromYDB rt (.typeId id) w = (primitiveValueFromYDB (primitiveTypeFromYDB id) w).orPanic := by
  simp only [FromYDB, fromYDB, TypeFromYDB]
  rw [fromYDBAt, nullValueFromYDB_primitive]

/-- A payload with an unset oneof, a NULL flag or a nested value, and no
    `high_128`, decodes at a primitive type as `ZeroValue` would make it. -/
theorem FromYDB_noLeaf (id : Ydb.PrimitiveTypeId) (w : Ydb.Value)
    (hw : w.value = .none ∨ w.value = .nullFlagValue ∨ ∃ x, w.value = .nestedValue x)
    (hh : w.high128 = 0) :
    FromYDB rt (.typeId id) w =
      if id = .YSON then .error (.panic s!"uncovered YSON internal type: {w.value.goType}")
      else ZeroValue rt (TypeFromYDB (.typeId id)) := by
  rw [FromYDB_typeId]
  obtain ⟨value, items, pairs, i, high⟩ := w
  dsimp only at hw hh
  subst hh
  rcases hw with rfl | rfl | ⟨x, rfl⟩ <;> cases id
  -- a UUID joins two zero halves; every other case computes its zero directly
  all_goals first | rfl | exact congrArg (fun b => (.ok (UUIDValue b) : Result Value)) BigEndianUint128_zero

/-- A NULL sent for an `Int32` column that is not optional arrives as `Int32(0)`. -/
theorem FromYDB_noLeaf_null_int32 :
    ((Ydb.Value.leaf .nullFlagValue).value = .none ∨
        (Ydb.Value.leaf .nullFlagValue).value = .nullFlagValue ∨
        ∃ x, (Ydb.Value.leaf .nullFlagValue).value = .nestedValue x) ∧
      (Ydb.Value.leaf .nullFlagValue).high128 = 0 ∧
      FromYDB Runtime.insertion (.typeId .INT32) (.leaf .nullFlagValue) =
        ZeroValue Runtime.insertion (.primitive TypeInt32) :=
  ⟨.inr (.inl rfl), rfl,
    (FromYDB_noLeaf Runtime.insertion .INT32 (.leaf .nullFlagValue) (.inr (.inl rfl)) rfl).trans
      (if_neg (by decide))⟩

/-! ## The zeros `ZeroValue` sends -/

mutual
/-- No list or dict type among the members `ZeroValue` recurses into: those of
    tuples, structs and variants. An optional's payload type is not recursed into. -/
def Ty.collectionFree : Ty → Bool
  | .listType _ | .dictType _ _ => false
  | .tupleType ts | .variantTupleType ts => Ty.itemsCollectionFree ts
  | .structType fs | .variantStructType fs => Ty.fieldsCollectionFree fs
  | _ => true

/-- Every tuple member is `collectionFree`. -/
def Ty.itemsCollectionFree : List Ty → Bool
  | [] => true
  | t :: ts => t.collectionFree && Ty.itemsCollectionFree ts

/-- Every struct member's type is `collectionFree`. -/
def Ty.fieldsCollectionFree : List (GoString × Ty) → Bool
  | [] => true
  | (_, t) :: fs => t.collectionFree && Ty.fieldsCollectionFree fs
end

open Value

mutual
/-- The zero of a `zeroReady` type with no list or dict in the members `ZeroValue` recurses
    into reads back. -/
theorem ZeroValue_readsBack : ∀ t : Ty, t.zeroReady → t.collectionFree →
    ∀ v, ZeroValue rt t = .ok v → v.readsBack rt
  -- A primitive zero is a scalar, and an optional's zero a NULL.
  | .primitive p, _, _, v, h => by
    cases h
    cases p <;> rfl
  | .optionalType _, _, _, v, h | .decimalType _ _, _, _, v, h => by
    cases h
    rfl
  -- A tuple's zero reads back when its members' zeros do.
  | .tupleType ts, hz, hc, v, h => by
    obtain ⟨vs, hvs, h⟩ := Result.bind_eq_ok.mp h
    cases h
    exact zeroItems_readsBack ts hz hc vs hvs
  -- A struct's zero keeps the type's ascending names, and its fields read back.
  | .structType fs, hz, hc, v, h => by
    simp only [Ty.zeroReady, Bool.and_eq_true] at hz
    obtain ⟨gs, hgs, h⟩ := Result.bind_eq_ok.mp h
    cases h
    obtain ⟨gs', hgs', ht, -⟩ := zeroFields_of_fieldsZeroReady rt fs hz.2
    cases hgs.symm.trans hgs'
    rw [structZero_eq rt hz.1 ht, readsBack, hz.1, zeroFields_readsBack fs hz.2 hc gs hgs]
    rfl
  -- A variant's zero reads back when its inner container's zero does.
  | .variantTupleType ts, hz, hc, v, h => by
    simp only [Ty.zeroReady, Bool.and_eq_true] at hz
    obtain ⟨vs, hvs, h⟩ := Result.bind_eq_ok.mp h
    cases h
    exact zeroItems_readsBack ts hz.2 hc vs hvs
  | .variantStructType fs, hz, hc, v, h => by
    simp only [Ty.zeroReady, Bool.and_eq_true] at hz
    obtain ⟨gs, hgs, h⟩ := Result.bind_eq_ok.mp h
    obtain ⟨gs', hgs', ht, -⟩ := zeroFields_of_fieldsZeroReady rt fs hz.2
    cases hgs.symm.trans hgs'
    rw [structZero_eq rt hz.1.2 ht] at h
    cases h
    show (Value.structValue fs gs).readsBack rt
    rw [readsBack, hz.1.2, zeroFields_readsBack fs hz.2 hc gs hgs]
    rfl

/-- The zeros of such tuple members read back. -/
theorem zeroItems_readsBack : ∀ ts : List Ty, Ty.itemsZeroReady ts → Ty.itemsCollectionFree ts →
    ∀ vs, zeroItems rt ts = .ok vs → itemsReadBack rt vs
  | [], _, _, vs, h => by
    cases h
    rfl
  | t :: ts, hz, hc, vs, h => by
    simp only [Ty.itemsZeroReady, Ty.itemsCollectionFree, Bool.and_eq_true] at hz hc
    -- The first member's zero, then the rest's, each reading back.
    obtain ⟨v, hv, h⟩ := Result.bind_eq_ok.mp h
    obtain ⟨vs', hvs', h⟩ := Result.bind_eq_ok.mp h
    cases h
    simp only [itemsReadBack, ZeroValue_readsBack t hz.1 hc.1 v hv,
      zeroItems_readsBack ts hz.2 hc.2 vs' hvs', Bool.and_self]

/-- The zeros of such struct members read back. -/
theorem zeroFields_readsBack : ∀ fs : List (GoString × Ty), Ty.fieldsZeroReady fs →
    Ty.fieldsCollectionFree fs → ∀ gs, zeroFields rt fs = .ok gs → fieldsReadBack rt gs
  | [], _, _, gs, h => by
    cases h
    rfl
  | (_, t) :: fs, hz, hc, gs, h => by
    simp only [Ty.fieldsZeroReady, Ty.fieldsCollectionFree, Bool.and_eq_true] at hz hc
    -- The first member's zero, then the rest's, each reading back.
    obtain ⟨v, hv, h⟩ := Result.bind_eq_ok.mp h
    obtain ⟨gs', hgs', h⟩ := Result.bind_eq_ok.mp h
    cases h
    simp only [fieldsReadBack, ZeroValue_readsBack t hz.1 hc.1 v hv,
      zeroFields_readsBack fs hz.2 hc.2 gs' hgs', Bool.and_self]
end

/-- The zero `ZeroValue` makes of a type it builds exactly, with no list or dict
    among the members it recurses into, comes back from the wire as itself. -/
theorem FromYDB_ToYDB_ZeroValue (t : Ty) (hz : t.zeroReady) (hc : t.collectionFree) :
    ∃ v, ZeroValue rt t = .ok v ∧ FromYDB rt (ToYDB v).1 (ToYDB v).2 = .ok v := by
  obtain ⟨v, hv, hw, -⟩ := ZeroValue_of_zeroReady rt t hz
  refine ⟨v, hv, ?_⟩
  rw [ToYDB, FromYDB_toYDB, fromYDBAt_toYDB rt v hw (ZeroValue_readsBack rt t hz hc v hv)]
  rfl

/-- The zero of `Struct<a: Int32, b: Optional<Text>, c: Decimal(22,9)>`. -/
theorem FromYDB_ToYDB_ZeroValue_struct :
    (Ty.structType [(GoString.lit "a", .primitive TypeInt32),
        (GoString.lit "b", .optionalType (.primitive TypeText)),
        (GoString.lit "c", .decimalType 22 9)]).zeroReady ∧
      (Ty.structType [(GoString.lit "a", .primitive TypeInt32),
        (GoString.lit "b", .optionalType (.primitive TypeText)),
        (GoString.lit "c", .decimalType 22 9)]).collectionFree ∧
      ∃ v, ZeroValue Runtime.insertion (.structType [(GoString.lit "a", .primitive TypeInt32),
          (GoString.lit "b", .optionalType (.primitive TypeText)),
          (GoString.lit "c", .decimalType 22 9)]) = .ok v ∧
        FromYDB Runtime.insertion (ToYDB v).1 (ToYDB v).2 = .ok v :=
  ⟨by decide, by decide, FromYDB_ToYDB_ZeroValue Runtime.insertion _ (by decide) (by decide)⟩

/-- The zero of a list type comes back as the empty list of type `EmptyList`,
    and the zero of a dict type makes `DictValue` panic on its first pair. -/
theorem FromYDB_ToYDB_ZeroValue_collection (e k w : Ty) :
    (∃ v, ZeroValue rt (.listType e) = .ok v ∧
      FromYDB rt (ToYDB v).1 (ToYDB v).2 = .ok (.listValue .emptyListType [])) ∧
    ∃ v, ZeroValue rt (.dictType k w) = .ok v ∧
      FromYDB rt (ToYDB v).1 (ToYDB v).2 =
        .error (.panic "runtime error: index out of range [0] with length 0") := by
  simp only [ToYDB, FromYDB_toYDB]
  exact ⟨⟨_, rfl, rfl⟩, ⟨_, rfl, rfl⟩⟩

end YdbSdk
