import YdbSdk.Value.Decode

/-!
# Encoding and Decoding

What `FromYDB` makes of what the package sends and of what a server sends.

`optionalValue.toYDB` copies only the oneof `Value` field of its payload's
encoding into the optional's encoding. For an inner value whose encoding is
all in that field the optional is faithful; for one that also sets `High_128`,
`Items`, `Pairs` or `VariantIndex` the rest is lost on the wire.

A server payload decodes faithfully when it conforms to its type in the shapes
the decoder reads back (`Conforms`): the decoded value has the type, and its
encoding is the payload, with YSON sent as text read as bytes (`ysonAsBytes`).
Two canonicalizations are by design and are part of what conforms means:
struct types with members in name order, and dict pairs in the order of their
keys' rendering. The shapes where the code slips are left out of `Conforms`.

## Main definitions

* `Ty.ysonAsBytes`: A payload with its YSON text moved to bytes.
* `Conforms`: A payload of a type, in the shapes decoded faithfully.

## Theorems

* `fromYDBAt_of_conforms`: The decoder on a conforming payload, by recursion on
  the type as the decoder itself recurses.
* `FromYDB_sound`: `FromYDB` on a conforming payload returns a value of the
  decoded type whose encoding is the payload.
* `FromYDB_dict_descending`: Dict pairs out of key order come back sorted.
* `FromYDB_empty_container`: An empty list comes back as `EmptyList`; an empty dict
  panics.
* `FromYDB_struct_unsorted`: Struct members out of name order come back sorted.
* `FromYDB_variant_member`: A variant sent as its chosen member alone comes back
  as a variant of the empty tuple or struct.
* `FromYDB_optional_uuid`: An optional UUID with a non-zero high half decodes
  with that half zeroed.
-/

namespace YdbSdk

open GoString

/-- The optional types, whose payloads are nested in a `NestedValue`. -/
def Ty.isOptional : Ty → Bool
  | .optionalType _ => true
  | _ => false

/-- The types whose values are encoded entirely in the oneof `Value` field: the
    primitive types but UUID, which also sets `High_128`. -/
def Ty.oneofOnly : Ty → Bool
  | .primitive p => p != .TypeUUID
  | _ => false

mutual
/-- `w` with every YSON payload that type `t` puts in a `text_value` moved to a
    `bytes_value`: the one way two wire encodings of a value can differ. -/
def Ty.ysonAsBytes : Ty → Ydb.Value → Ydb.Value
  | .primitive .TypeYSON, w => match w.value with
    | .textValue b => { w with value := .bytesValue b }
    | _ => w
  | .optionalType t, w => match w.value with
    | .nestedValue x => { w with value := .nestedValue (t.ysonAsBytes x) }
    | .nullFlagValue => w
    | _ => t.ysonAsBytes w
  | .listType t, w => { w with items := w.items.map t.ysonAsBytes }
  | .tupleType ts, w => { w with items := Ty.itemsYsonAsBytes ts w.items }
  | .structType fs, w => { w with items := Ty.fieldsYsonAsBytes fs w.items }
  | .dictType k t, w => { w with pairs := w.pairs.map fun p => (k.ysonAsBytes p.1, t.ysonAsBytes p.2) }
  | .variantTupleType ts, w => match w.value with
    | .nestedValue nv => { w with value := .nestedValue { nv with items := Ty.itemsYsonAsBytes ts nv.items } }
    | _ => w
  | .variantStructType fs, w => match w.value with
    | .nestedValue nv => { w with value := .nestedValue { nv with items := Ty.fieldsYsonAsBytes fs nv.items } }
    | _ => w
  | _, w => w

/-- `ysonAsBytes` of each tuple item at its member's type. -/
def Ty.itemsYsonAsBytes : List Ty → List Ydb.Value → List Ydb.Value
  | t :: ts, w :: ws => t.ysonAsBytes w :: Ty.itemsYsonAsBytes ts ws
  | _, ws => ws

/-- `ysonAsBytes` of each struct item at its member's type. -/
def Ty.fieldsYsonAsBytes : List (GoString × Ty) → List Ydb.Value → List Ydb.Value
  | (_, t) :: fs, w :: ws => t.ysonAsBytes w :: Ty.fieldsYsonAsBytes fs ws
  | _, ws => ws
end

section ysonAsBytes

variable (w : Ydb.Value)

/-- A list payload has its items' YSON moved. -/
@[simp] theorem Ty.ysonAsBytes_listType (t : Ty) :
    (Ty.listType t).ysonAsBytes w = { w with items := w.items.map t.ysonAsBytes } := rfl

/-- A tuple payload has each item's YSON moved by its member's type. -/
@[simp] theorem Ty.ysonAsBytes_tupleType (ts : List Ty) :
    (Ty.tupleType ts).ysonAsBytes w = { w with items := Ty.itemsYsonAsBytes ts w.items } := rfl

/-- A struct payload has each item's YSON moved by its member's type. -/
@[simp] theorem Ty.ysonAsBytes_structType (fs : List (GoString × Ty)) :
    (Ty.structType fs).ysonAsBytes w = { w with items := Ty.fieldsYsonAsBytes fs w.items } := rfl

/-- A dict payload has each key's and payload's YSON moved. -/
@[simp] theorem Ty.ysonAsBytes_dictType (k t : Ty) :
    (Ty.dictType k t).ysonAsBytes w =
      { w with pairs := w.pairs.map fun p => (k.ysonAsBytes p.1, t.ysonAsBytes p.2) } := rfl

/-- A tuple variant has the YSON of its nested items moved. -/
@[simp] theorem Ty.ysonAsBytes_variantTupleType (ts : List Ty) :
    (Ty.variantTupleType ts).ysonAsBytes w = match w.value with
      | .nestedValue nv => { w with value := .nestedValue { nv with items := Ty.itemsYsonAsBytes ts nv.items } }
      | _ => w := rfl

/-- A struct variant has the YSON of its nested items moved. -/
@[simp] theorem Ty.ysonAsBytes_variantStructType (fs : List (GoString × Ty)) :
    (Ty.variantStructType fs).ysonAsBytes w = match w.value with
      | .nestedValue nv => { w with value := .nestedValue { nv with items := Ty.fieldsYsonAsBytes fs nv.items } }
      | _ => w := rfl

end ysonAsBytes

variable (rt : Runtime)

/-- The keys of the pairs, decoded at `k` and rendered, come without a panic and
    in strictly ascending order, the order `DictValue` sorts pairs into. -/
def KeysAscending (k : Ty) (ps : List (Ydb.Value × Ydb.Value)) : Prop :=
  ∃ ks : List GoString,
    ps.map (fun p => fromYDBAt rt k p.1 >>= (·.toString rt)) = ks.map .ok ∧ ks.Sorted (· < ·)

mutual
/-- `w` is a payload of type `t`: the leaf of the primitive's kind and range
    (YSON as text or bytes), the two halves of a decimal, a `NullFlag` for Void
    and for the NULL of an optional, and items or pairs, one per member, for the
    containers. The shapes the code does not read back faithfully are left out:
    Null, EmptyList and EmptyDict types, empty lists and dicts, a NULL nested in
    a present optional, an optional around a type whose encoding is more than
    its oneof field, structs whose members are out of name order, and dicts
    whose keys are not in the order `DictValue` sorts them into. -/
def Conforms : Ty → Ydb.Value → Prop
  | .primitive p, w => (∃ s : Scalar, s.primitiveType = p ∧ w = s.toYDB) ∨
      (p = .TypeYSON ∧ ∃ b, w = .leaf (.textValue b))
  | .decimalType _ _, w => ∃ hi lo, w = { Ydb.Value.leaf (.low128 lo) with high128 := hi }
  | .voidType, w => w = .leaf .nullFlagValue
  | .optionalType t, w => w = .leaf .nullFlagValue ∨
      (t.isOptional ∧ ∃ x, w = .leaf (.nestedValue x) ∧ x.value ≠ .nullFlagValue ∧ Conforms t x) ∨
      (t.oneofOnly ∧ Conforms t w)
  | .listType t, w => ∃ ws, w = { Ydb.Value.leaf .none with items := ws } ∧ ws ≠ [] ∧
      ∀ x ∈ ws, Conforms t x
  | .tupleType ts, w => ∃ ws, w = { Ydb.Value.leaf .none with items := ws } ∧ TupleConforms ts ws
  | .structType fs, w => (fs.map Prod.fst).Sorted (· < ·) ∧
      ∃ ws, w = { Ydb.Value.leaf .none with items := ws } ∧ FieldsConforms fs ws
  | .dictType k t, w => ∃ ps, w = { Ydb.Value.leaf .none with pairs := ps } ∧ ps ≠ [] ∧
      (∀ p ∈ ps, Conforms k p.1 ∧ Conforms t p.2) ∧ KeysAscending rt k ps
  | .variantTupleType ts, w => ∃ ws idx,
      w = { Ydb.Value.leaf (.nestedValue { Ydb.Value.leaf .none with items := ws }) with
        variantIndex := idx } ∧ TupleConforms ts ws
  | .variantStructType fs, w => (fs.map Prod.fst).Sorted (· < ·) ∧ ∃ ws idx,
      w = { Ydb.Value.leaf (.nestedValue { Ydb.Value.leaf .none with items := ws }) with
        variantIndex := idx } ∧ FieldsConforms fs ws
  | .nullType, _ | .emptyListType, _ | .emptyDictType, _ => False

/-- One conforming item per tuple member. -/
def TupleConforms : List Ty → List Ydb.Value → Prop
  | [], [] => True
  | t :: ts, w :: ws => Conforms t w ∧ TupleConforms ts ws
  | _, _ => False

/-- One conforming item per struct member. -/
def FieldsConforms : List (GoString × Ty) → List Ydb.Value → Prop
  | [], [] => True
  | (_, t) :: fs, w :: ws => Conforms t w ∧ FieldsConforms fs ws
  | _, _ => False
end

/-- A conforming payload that is not a `NullFlag` is no NULL at any type: the
    `NestedValue`s it starts with end in a leaf or in a container. -/
theorem nullValueFromYDB_of_conforms : ∀ (t : Ty) (x : Ydb.Value), Conforms rt t x →
    x.value ≠ .nullFlagValue → ∀ t', nullValueFromYDB x t' = none
  -- A leaf is no NULL.
  | .primitive _, _, h, _, t' => by
    rcases h with ⟨s, -, rfl⟩ | ⟨-, b, rfl⟩
    · exact nullValueFromYDB_scalar s t'
    · rfl
  | .decimalType _ _, _, ⟨_, _, rfl⟩, _, _ => rfl
  -- Void's payload is the `NullFlag` excluded here.
  | .voidType, _, rfl, hf, _ => absurd rfl hf
  -- An optional's payload that is no `NullFlag` is nested or the inner leaf: the
  -- inner payload decides.
  | .optionalType t, _, h, hf, t' => by
    rcases h with rfl | ⟨-, x, rfl, hx, hc⟩ | ⟨-, hc⟩
    · exact absurd rfl hf
    · rw [Ydb.Value.leaf, nullValueFromYDB_nested]
      exact nullValueFromYDB_of_conforms t x hc hx t'
    · exact nullValueFromYDB_of_conforms t _ hc hf t'
  -- A container leaves the oneof unset, and a variant nests a container.
  | .listType _, _, ⟨_, rfl, _⟩, _, _ => rfl
  | .tupleType _, _, ⟨_, rfl, _⟩, _, _ => rfl
  | .structType _, _, ⟨_, _, rfl, _⟩, _, _ => rfl
  | .dictType _ _, _, ⟨_, rfl, _⟩, _, _ => rfl
  | .variantTupleType _, _, ⟨_, _, rfl, _⟩, _, _ => rfl
  | .variantStructType _, _, ⟨_, _, _, rfl, _⟩, _, _ => rfl

/-- The decoder returns an optional value at an optional type. -/
theorem fromYDBAt_optionalType_isOptional {t : Ty} {w : Ydb.Value} {v : Value}
    (h : fromYDBAt rt (.optionalType t) w = .ok v) : v.isOptional := by
  rw [fromYDBAt] at h
  split at h
  · next vv hn =>
    cases h
    rcases nullValueFromYDB_eq_some hn with ⟨i, -, rfl⟩ | ⟨h', -⟩
    · rfl
    · cases h'
  · split at h <;> (obtain ⟨_, -, h⟩ := Result.bind_eq_ok.mp h; cases h; rfl)

/-- A scalar's encoding holds no YSON text. -/
theorem ysonAsBytes_scalar (s : Scalar) : (Ty.primitive s.primitiveType).ysonAsBytes s.toYDB = s.toYDB := by
  cases s <;> rfl

/-- The encoding of a scalar other than a UUID is a bare leaf. -/
theorem Scalar.toYDB_eq_leaf (s : Scalar) (h : s.primitiveType ≠ .TypeUUID) :
    s.toYDB = .leaf s.toYDB.value := by
  cases s <;> first | rfl | exact absurd rfl h

/-- A primitive payload is a leaf: neither nested nor a `NullFlag`. -/
theorem Conforms.primitive_leaf {p : PrimitiveType} {w : Ydb.Value} (h : Conforms rt (.primitive p) w) :
    (∀ x, w.value ≠ .nestedValue x) ∧ w.value ≠ .nullFlagValue := by
  rcases h with ⟨s, -, rfl⟩ | ⟨-, b, rfl⟩
  · cases s <;> simp [Scalar.toYDB, Ydb.Value.leaf]
  · simp [Ydb.Value.leaf]

/-- An optional type reads a leaf payload as its inner type does. -/
theorem ysonAsBytes_optionalType_leaf {t : Ty} {w : Ydb.Value} (hn : ∀ x, w.value ≠ .nestedValue x)
    (hf : w.value ≠ .nullFlagValue) : (Ty.optionalType t).ysonAsBytes w = t.ysonAsBytes w := by
  obtain ⟨value, _, _, _, _⟩ := w
  cases value with
  | nestedValue x => exact absurd rfl (hn x)
  | nullFlagValue => exact absurd rfl hf
  | _ => rfl

/-- A primitive payload decodes to the scalar whose encoding it is. -/
theorem fromYDBAt_primitive {p : PrimitiveType} {w : Ydb.Value} (h : Conforms rt (.primitive p) w) :
    ∃ s, fromYDBAt rt (.primitive p) w = .ok (.scalar s) ∧ s.primitiveType = p ∧
      s.toYDB = (Ty.primitive p).ysonAsBytes w := by
  rcases h with ⟨s, rfl, rfl⟩ | ⟨rfl, b, rfl⟩
  · refine ⟨s, ?_, rfl, (ysonAsBytes_scalar s).symm⟩
    rw [fromYDBAt, nullValueFromYDB_scalar]
    exact primitiveValueFromYDB_toYDB s
  · exact ⟨_, rfl, rfl, rfl⟩

/-- Fields named as the members of a sorted struct type are sorted. -/
theorem names_sorted_of_map {fs : List (GoString × Ty)} {gs : List (GoString × Value)}
    (ht : gs.map (fun g => (g.1, g.2.type)) = fs) (hs : (fs.map Prod.fst).Sorted (· < ·)) :
    (gs.map Prod.fst).Sorted (· < ·) := by
  rwa [← ht, List.map_map] at hs

mutual
/-- Decoding a conforming payload returns a value of the payload's type whose
    encoding is the payload, YSON text read as bytes. -/
theorem fromYDBAt_of_conforms : ∀ (t : Ty) (w : Ydb.Value), Conforms rt t w →
    ∃ v, fromYDBAt rt t w = .ok v ∧ v.type = t ∧ v.toYDB = t.ysonAsBytes w
  -- A primitive payload is its leaf, YSON text read as bytes.
  | .primitive _, _, h => by
    obtain ⟨s, hv, rfl, he⟩ := fromYDBAt_primitive rt h
    exact ⟨.scalar s, hv, rfl, he⟩
  -- A decimal is its two halves, and Void its `NullFlag`.
  | .decimalType _ _, _, ⟨hi, lo, rfl⟩ => ⟨_, rfl, rfl, by simp [Value.toYDB, Ydb.Value.leaf]; rfl⟩
  | .voidType, _, rfl => ⟨_, rfl, rfl, rfl⟩
  -- An optional payload is a `NullFlag`, a nested payload, or the inner leaf.
  | .optionalType t, _, h => by
    rcases h with rfl | ⟨ho, x, rfl, hx, hc⟩ | ⟨ho, hc⟩
    -- The `NullFlag` is the optional's NULL.
    · exact ⟨_, rfl, rfl, rfl⟩
    · -- An optional inner type: the payload is nested, and holds no NULL.
      obtain ⟨v, hv, ht, he⟩ := fromYDBAt_of_conforms t x hc
      obtain ⟨t₀, rfl⟩ : ∃ t₀, t = .optionalType t₀ := by cases t <;> first | exact ⟨_, rfl⟩ | cases ho
      refine ⟨OptionalValue v, ?_, by rw [OptionalValue, Value.type, ht], ?_⟩
      · rw [fromYDBAt, Ydb.Value.leaf, nullValueFromYDB_nested,
          nullValueFromYDB_of_conforms rt _ x hc hx]
        simp [hv]
      · show (if v.isOptional then Ydb.Value.leaf (.nestedValue v.toYDB) else .leaf v.toYDB.value) = _
        rw [if_pos (fromYDBAt_optionalType_isOptional rt hv), he]; rfl
    · -- A primitive inner type other than UUID: the payload is the inner leaf.
      obtain ⟨p, rfl⟩ : ∃ p, t = .primitive p := by cases t <;> simp_all [Ty.oneofOnly]
      obtain ⟨hn, hf⟩ := hc.primitive_leaf rt
      obtain ⟨s, hv, rfl, he⟩ := fromYDBAt_primitive rt hc
      refine ⟨OptionalValue (.scalar s), ?_, rfl, ?_⟩
      · rw [fromYDBAt, nullValueFromYDB_eq_none hn hf]
        dsimp only
        split
        · next x h => exact absurd h (hn x)
        · simp [hv]
      · have hu : s.primitiveType ≠ .TypeUUID := by simpa [Ty.oneofOnly] using ho
        rw [ysonAsBytes_optionalType_leaf hn hf, ← he, Scalar.toYDB_eq_leaf s hu]
        rfl
  -- A list decodes item by item; with one item at least, `ListValue` takes its
  -- type from the first.
  | .listType t, _, ⟨ws, rfl, hne, hc⟩ => by
    obtain ⟨vs, hvs, hp⟩ := Result.mapM_ok_of_forall (f := fun x => (fromYDBAt rt t x).orPanic)
      (P := fun x v => v.type = t ∧ v.toYDB = t.ysonAsBytes x) fun x hx => by
        obtain ⟨v, hv, ht, he⟩ := fromYDBAt_of_conforms t x (hc x hx)
        exact ⟨v, by simp [hv], ht, he⟩
    cases hp with
    | nil => exact absurd rfl hne
    | @cons x₀ v₀ ws vs h₀ hp =>
      refine ⟨.listValue (.listType t) (v₀ :: vs), ?_, rfl, ?_⟩
      · rw [fromYDBAt, nullValueFromYDB_unset (by rfl)]
        dsimp only
        rw [hvs]
        simp [ListValue_eq, h₀.1]
      · simp [Value.toYDB, h₀.2, map_eq_of_forall₂ (hp.imp fun _ _ h => h.2)]
  -- A tuple decodes item by item at its members' types.
  | .tupleType ts, _, ⟨ws, rfl, hc⟩ => by
    obtain ⟨vs, hd, ht, he⟩ := tupleItemsFromYDB_of_conforms ts ws ts.length 0 hc
    refine ⟨.tupleValue ts vs, ?_, rfl, ?_⟩
    · rw [fromYDBAt, nullValueFromYDB_unset (by rfl)]
      simp [hd, TupleValue, ht]
    · simp [Value.toYDB, he]
  -- A struct type with ascending names: `StructValue` keeps the decoded fields
  -- where they are.
  | .structType fs, _, ⟨hs, ws, rfl, hc⟩ => by
    obtain ⟨gs, hd, ht, he⟩ := structFieldsFromYDB_of_conforms fs ws fs.length 0 hc
    refine ⟨.structValue fs gs, ?_, rfl, ?_⟩
    · rw [fromYDBAt, nullValueFromYDB_unset (by rfl)]
      simp [hd, StructValue_of_sorted rt (names_sorted_of_map ht hs), ht]
    · simp [Value.toYDB, he]
  -- A dict decodes pair by pair, each key and payload at its type.
  | .dictType k t, _, ⟨ps, rfl, hne, hc, ks, hks, hsorted⟩ => by
    obtain ⟨dps, hdps, hp⟩ := Result.mapM_ok_of_forall
      (f := fun (p : Ydb.Value × Ydb.Value) =>
        do return ((← (fromYDBAt rt k p.1).orPanic), (← (fromYDBAt rt t p.2).orPanic)))
      (P := fun p (d : Value × Value) => fromYDBAt rt k p.1 = .ok d.1 ∧ d.1.type = k ∧ d.2.type = t ∧
        d.1.toYDB = k.ysonAsBytes p.1 ∧ d.2.toYDB = t.ysonAsBytes p.2) fun p hp => by
        obtain ⟨a, ha, hat, hae⟩ := fromYDBAt_of_conforms k p.1 (hc p hp).1
        obtain ⟨b, hb, hbt, hbe⟩ := fromYDBAt_of_conforms t p.2 (hc p hp).2
        exact ⟨(a, b), by simp [ha, hb], ha, hat, hbt, hae, hbe⟩
    -- The decoded keys render to `ks`, which are in the order `DictValue` sorts into.
    have hr : dps.map (fun d => d.1.toString rt) = ks.map .ok :=
      (map_eq_of_forall₂ (f := fun p => fromYDBAt rt k p.1 >>= (·.toString rt))
        (hp.imp fun p d h => by simp [h.1])).trans hks
    cases hp with
    | nil => exact absurd rfl hne
    | @cons p₀ d₀ ps dps h₀ hp =>
      refine ⟨.dictValue (.dictType k t) (d₀ :: dps), ?_, rfl, ?_⟩
      · rw [fromYDBAt, nullValueFromYDB_unset (by rfl)]
        dsimp only
        rw [hdps]
        simp [DictValue, sortByKey_eq_self rt hr hsorted, h₀.2.1, h₀.2.2.1]
      · have hm : dps.map (fun d => (d.1.toYDB, d.2.toYDB)) =
            ps.map (fun p => (k.ysonAsBytes p.1, t.ysonAsBytes p.2)) :=
          map_eq_of_forall₂ (hp.imp fun _ _ h => by simp [h.2.2.2.1, h.2.2.2.2])
        simp [Value.toYDB, h₀.2.2.2.1, h₀.2.2.2.2, hm]
  -- A variant's items sit behind its `NestedValue`; they decode as the inner
  -- container's, and the index is copied.
  | .variantTupleType ts, _, ⟨ws, idx, rfl, hc⟩ => by
    obtain ⟨vs, hd, ht, he⟩ := tupleItemsFromYDB_of_conforms ts ws ts.length 0 hc
    refine ⟨.variantValue (.variantTupleType ts) (.tupleValue ts vs) idx, ?_, rfl, ?_⟩
    · rw [fromYDBAt]
      simp [Ydb.Value.leaf, nullValueFromYDB, hd, TupleValue, ht]
    · simp [Value.toYDB, Ydb.Value.leaf, he]
  | .variantStructType fs, _, ⟨hs, ws, idx, rfl, hc⟩ => by
    obtain ⟨gs, hd, ht, he⟩ := structFieldsFromYDB_of_conforms fs ws fs.length 0 hc
    refine ⟨.variantValue (.variantStructType fs) (.structValue fs gs) idx, ?_, rfl, ?_⟩
    · rw [fromYDBAt]
      simp [Ydb.Value.leaf, nullValueFromYDB, hd, StructValue_of_sorted rt (names_sorted_of_map ht hs), ht]
    · simp [Value.toYDB, Ydb.Value.leaf, he]

/-- Conforming tuple items decode, one per member, to values of the members' types whose
    encodings are the items. -/
theorem tupleItemsFromYDB_of_conforms : ∀ (ts : List Ty) (ws : List Ydb.Value) (n i : Nat),
    TupleConforms rt ts ws → ∃ vs, tupleItemsFromYDB rt n i ts ws = .ok vs ∧
      vs.map Value.type = ts ∧ vs.map Value.toYDB = Ty.itemsYsonAsBytes ts ws
  | [], [], _, _, _ => ⟨[], rfl, rfl, rfl⟩
  | t :: ts, w :: ws, n, i, ⟨hc, hcs⟩ => by
    obtain ⟨v, hv, ht, he⟩ := fromYDBAt_of_conforms t w hc
    obtain ⟨vs, hvs, hts, hes⟩ := tupleItemsFromYDB_of_conforms ts ws n (i + 1) hcs
    refine ⟨v :: vs, ?_, congrArg₂ List.cons ht hts, congrArg₂ List.cons he hes⟩
    show (do return (← (fromYDBAt rt t w).orPanic) :: (← tupleItemsFromYDB rt n (i + 1) ts ws)) = _
    rw [hv, hvs]; rfl
  | [], _ :: _, _, _, h | _ :: _, [], _, _, h => h.elim

/-- Conforming struct items decode, one per member, to fields of the members' names and types
    whose encodings are the items. -/
theorem structFieldsFromYDB_of_conforms : ∀ (fs : List (GoString × Ty)) (ws : List Ydb.Value)
    (n i : Nat), FieldsConforms rt fs ws → ∃ gs, structFieldsFromYDB rt n i fs ws = .ok gs ∧
      gs.map (fun g => (g.1, g.2.type)) = fs ∧ gs.map (fun g => g.2.toYDB) = Ty.fieldsYsonAsBytes fs ws
  | [], [], _, _, _ => ⟨[], rfl, rfl, rfl⟩
  | (name, t) :: fs, w :: ws, n, i, ⟨hc, hcs⟩ => by
    obtain ⟨v, hv, ht, he⟩ := fromYDBAt_of_conforms t w hc
    obtain ⟨gs, hgs, hts, hes⟩ := structFieldsFromYDB_of_conforms fs ws n (i + 1) hcs
    refine ⟨(name, v) :: gs, ?_, congrArg₂ List.cons (congrArg (Prod.mk name) ht) hts, congrArg₂ List.cons he hes⟩
    show (do return (name, ← (fromYDBAt rt t w).orPanic) :: (← structFieldsFromYDB rt n (i + 1) fs ws)) = _
    rw [hv, hgs]; rfl
  | [], _ :: _, _, _, h | _ :: _, [], _, _, h => h.elim
end

/-- `FromYDB` returns, without a panic, a value of the decoded type whose
    encoding is the payload, YSON text read as bytes, for every payload that
    conforms to the type. -/
theorem FromYDB_sound (t : Ydb.Ty) (w : Ydb.Value) (h : Conforms rt (TypeFromYDB t) w) :
    ∃ v, FromYDB rt t w = .ok v ∧ v.type = TypeFromYDB t ∧ v.toYDB = (TypeFromYDB t).ysonAsBytes w := by
  obtain ⟨v, hv, ht, he⟩ := fromYDBAt_of_conforms rt _ w h
  exact ⟨v, by simp [FromYDB, fromYDB, hv], ht, he⟩

/-- A `Dict<Int32, Yson>` payload, one YSON as text and one as bytes. -/
theorem FromYDB_sound_dict :
    Conforms Runtime.insertion (TypeFromYDB (.dictType (.typeId .INT32) (.typeId .YSON)))
      { Ydb.Value.leaf .none with pairs := [(.leaf (.int32Value 1), .leaf (.textValue [1])),
          (.leaf (.int32Value 2), .leaf (.bytesValue [2]))] } ∧
    ∃ v, FromYDB Runtime.insertion (.dictType (.typeId .INT32) (.typeId .YSON))
        { Ydb.Value.leaf .none with pairs := [(.leaf (.int32Value 1), .leaf (.textValue [1])),
          (.leaf (.int32Value 2), .leaf (.bytesValue [2]))] } = .ok v ∧
      v.type = TypeFromYDB (.dictType (.typeId .INT32) (.typeId .YSON)) ∧
      v.toYDB = (TypeFromYDB (.dictType (.typeId .INT32) (.typeId .YSON))).ysonAsBytes
        { Ydb.Value.leaf .none with pairs := [(.leaf (.int32Value 1), .leaf (.textValue [1])),
          (.leaf (.int32Value 2), .leaf (.bytesValue [2]))] } :=
  have hc : Conforms Runtime.insertion (TypeFromYDB (.dictType (.typeId .INT32) (.typeId .YSON)))
      { Ydb.Value.leaf .none with pairs := [(.leaf (.int32Value 1), .leaf (.textValue [1])),
          (.leaf (.int32Value 2), .leaf (.bytesValue [2]))] } := by
    refine ⟨_, rfl, List.cons_ne_nil _ _, ?_, [lit "1", lit "2"], rfl, by decide⟩
    -- Each key is an `Int32` leaf, and each payload a YSON leaf, as text or as bytes.
    simp only [List.mem_cons, List.mem_singleton, List.not_mem_nil, or_false, forall_eq_or_imp, forall_eq]
    exact ⟨⟨.inl ⟨.int32Value 1, rfl, rfl⟩, .inr ⟨rfl, [1], rfl⟩⟩,
      ⟨.inl ⟨.int32Value 2, rfl, rfl⟩, .inl ⟨.ysonValue [2], rfl, rfl⟩⟩⟩
  ⟨hc, FromYDB_sound _ _ _ hc⟩

/-- A dict whose pairs arrive in descending key order comes back sorted, so its
    encoding is not the payload. -/
theorem FromYDB_dict_descending :
    ∃ v, FromYDB Runtime.insertion (.dictType (.typeId .INT32) (.typeId .INT32))
        { Ydb.Value.leaf .none with pairs := [(.leaf (.int32Value 2), .leaf (.int32Value 0)),
          (.leaf (.int32Value 1), .leaf (.int32Value 0))] } = .ok v ∧
      v.toYDB = { Ydb.Value.leaf .none with pairs := [(.leaf (.int32Value 1), .leaf (.int32Value 0)),
          (.leaf (.int32Value 2), .leaf (.int32Value 0))] } :=
  ⟨_, rfl, rfl⟩

/-! ## What `Conforms` leaves out

Three more shapes are outside `Conforms` by design, beside dict pairs out of key
order: empty containers, struct types with members out of name order, and a
variant whose `NestedValue` is its chosen member alone, which is how the wire
protocol sends a variant but not how `variantValue.toYDB` encodes one. -/

/-- An empty list payload comes back as the list of no items, whose type is
    `EmptyList` and not the list type asked for, and an empty dict payload makes
    `DictValue` panic on its first pair. -/
theorem FromYDB_empty_container (t k : Ydb.Ty) :
    FromYDB rt (.listType t) (.leaf .none) = .ok (.listValue .emptyListType []) ∧
    FromYDB rt (.dictType k t) (.leaf .none) =
      .error (.panic "runtime error: index out of range [0] with length 0") :=
  ⟨rfl, rfl⟩

/-- A struct payload whose type lists the members out of name order comes back
    with the members sorted by name, so its type is not the type asked for. -/
theorem FromYDB_struct_unsorted (ms : List (GoString × Ydb.Ty)) (ws : List Ydb.Value)
    (hs : ¬ ((StructFieldsFromYDB ms).map Prod.fst).Sorted fun a b => ¬ b < a)
    (hc : FieldsConforms rt (StructFieldsFromYDB ms) ws) :
    ∃ v, FromYDB rt (.structType ms) { Ydb.Value.leaf .none with items := ws } = .ok v ∧
      v.type ≠ TypeFromYDB (.structType ms) := by
  obtain ⟨gs, hd, ht, -⟩ :=
    structFieldsFromYDB_of_conforms rt _ ws (StructFieldsFromYDB ms).length 0 hc
  refine ⟨StructValue rt gs, ?_, fun h => hs ?_⟩
  · show (fromYDBAt rt (.structType (StructFieldsFromYDB ms)) _).orPanic = _
    rw [fromYDBAt, nullValueFromYDB_unset rfl]
    simp [hd]
  · -- The type's member names would be those of the sorted fields.
    simp only [StructValue, Value.type, TypeFromYDB, Ty.structType.injEq] at h
    rw [← h, List.map_map]
    exact List.pairwise_map.mpr (rt.sortSlice_sorted Prod.fst gs)

/-- A variant payload whose `NestedValue` is the chosen member alone: the decoder
    takes the member's items for those of the whole tuple or struct, so a member
    without items comes back as a variant of the empty tuple or struct. -/
theorem FromYDB_variant_member (ts : List Ydb.Ty) (ms : List (GoString × Ydb.Ty))
    (x : Ydb.Value) (idx : BitVec 32) (hx : x.items = []) :
    FromYDB rt (.variantTupleItems ts)
        { Ydb.Value.leaf (.nestedValue x) with variantIndex := idx } =
      .ok (.variantValue (.variantTupleType []) (.tupleValue [] []) idx) ∧
    FromYDB rt (.variantStructItems ms)
        { Ydb.Value.leaf (.nestedValue x) with variantIndex := idx } =
      .ok (.variantValue (.variantStructType []) (.structValue [] []) idx) := by
  -- No NULL is read at a variant type, however deep the member is nested.
  have hn : ∀ t, (∀ i, t ≠ .optionalType i) → t ≠ .voidType → nullValueFromYDB x t = none :=
    fun t ho hv => Option.eq_none_iff_forall_not_mem.mpr fun vv h =>
      (nullValueFromYDB_eq_some h).elim (fun ⟨i, hi, _⟩ => ho i hi) fun ⟨h, _⟩ => hv h
  constructor
  · show (fromYDBAt rt (.variantTupleType (TypesFromYDB ts)) _).orPanic = _
    rw [fromYDBAt, Ydb.Value.leaf, nullValueFromYDB_nested,
      hn (.variantTupleType (TypesFromYDB ts)) nofun nofun]
    simp only [hx, tupleItemsFromYDB_nil]
    rfl
  · show (fromYDBAt rt (.variantStructType (StructFieldsFromYDB ms)) _).orPanic = _
    rw [fromYDBAt, Ydb.Value.leaf, nullValueFromYDB_nested,
      hn (.variantStructType (StructFieldsFromYDB ms)) nofun nofun]
    simp only [hx, structFieldsFromYDB_nil, Result.ok_bind, Result.pure_eq, StructValue_nil]
    rfl

/-- An optional UUID whose first byte is 1 comes back as the optional nil UUID. -/
theorem FromYDB_optional_uuid :
    FromYDB rt (OptionalValue (UUIDValue ⟨1 :: List.replicate 15 0, rfl⟩)).type.toYDB
        (OptionalValue (UUIDValue ⟨1 :: List.replicate 15 0, rfl⟩)).toYDB =
      .ok (OptionalValue (UUIDValue Bytes16.zero)) :=
  rfl

end YdbSdk
