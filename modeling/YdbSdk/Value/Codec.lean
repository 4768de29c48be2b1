import YdbSdk.Value.Canonical
import YdbSdk.Value.RoundTrip
import YdbSdk.Value.Zero

/-!
# Decoding What Was Sent

`FromYDB` applied to what `ToYDB` sends: when the package reads back a value
of its own.

The decoder rebuilds containers through the exported constructors, so it can
only give back a value those constructors could have built: a list or dict with
at least one element, struct members in name order, dict pairs in the order of
their keys' rendering, and a variant around a tuple or struct value. The
encoder adds one more condition: `optionalValue.toYDB` copies only the oneof of
its payload's encoding, so an optional is sent whole only around a scalar other
than a UUID (whose encoding is that oneof) or around a present optional (which
it nests). `Value.readsBack` collects these conditions at every depth, and
`FromYDB_ToYDB` says they are enough: a well-typed value that meets them comes
back from its own encoding unchanged.

Outside them the wire loses data, and the section at the end says what the
decoder makes of every optional whose payload is not carried whole.

## Main definitions

* `Value.nestsInOptional`: The payloads an optional carries whole.
* `Value.keysAscending`: Dict keys that render, in strictly ascending order.
* `Value.readsBack`: The values whose encoding decodes to them.

## Theorems

* `nullValueFromYDB_toYDB`: The encoding of a payload an optional carries whole
  holds no NULL.
* `fromYDBAt_toYDB`: Decoding the encoding of a value that reads back, at its
  own type, returns it.
* `FromYDB_ToYDB`: `FromYDB` of what `ToYDB` sends returns the value.
* `constructors_readsBack`: The constructors build values that read back from
  parts that do.
* `FromYDB_ToYDB_optional_container`, `FromYDB_ToYDB_optional_high128`,
  `FromYDB_ToYDB_optional_null`, `FromYDB_ToYDB_optional_variant`: What an
  optional around any other payload comes back as.
-/

namespace YdbSdk

open GoString

namespace Value

variable (rt : Runtime)

/-- The payloads an optional carries whole: a scalar other than a UUID, whose
    encoding is all in the oneof `optionalValue.toYDB` copies, and a present
    optional, whose encoding it nests. -/
def nestsInOptional : Value → Bool
  | scalar s => s.primitiveType != .TypeUUID
  | optionalValue _ (some _) => true
  | _ => false

/-- The keys render without a panic, to strictly ascending strings: the order
    `DictValue` sorts its pairs into. -/
def keysAscending (ps : List (Value × Value)) : Bool :=
  match ps.mapM fun p => p.1.toString rt with
  | .ok ks => decide (ks.Sorted (· < ·))
  | .error _ => false

mutual
/-- `v` has the shape `FromYDB` rebuilds from `v.toYDB`: lists and dicts are not
    empty, struct members are in strictly ascending name order, dict keys in
    the order `DictValue` sorts them into, an optional's payload is one it
    carries whole, and a variant holds a tuple or struct value; and so for
    every value inside. -/
def readsBack : Value → Bool
  | scalar _ | decimalValue _ _ _ | voidValue => true
  | dictValue _ values => !values.isEmpty && keysAscending rt values && pairsReadBack values
  | listValue _ items => !items.isEmpty && itemsReadBack items
  | optionalValue _ value => match value with
    | some v => v.nestsInOptional && v.readsBack
    | none => true
  | structValue t fields => namesAscending t && fieldsReadBack fields
  | tupleValue _ items => itemsReadBack items
  | variantValue _ v _ => match v with
    | tupleValue _ _ | structValue _ _ => v.readsBack
    | _ => false

/-- Every item reads back. -/
def itemsReadBack : List Value → Bool
  | [] => true
  | v :: vs => v.readsBack && itemsReadBack vs

/-- Every field value reads back. -/
def fieldsReadBack : List (GoString × Value) → Bool
  | [] => true
  | (_, v) :: fs => v.readsBack && fieldsReadBack fs

/-- Every key and payload reads back. -/
def pairsReadBack : List (Value × Value) → Bool
  | [] => true
  | (k, v) :: ps => k.readsBack && v.readsBack && pairsReadBack ps
end

/-- The keys of pairs that pass `keysAscending` render without a panic, in strictly ascending
    order. -/
theorem keysAscending_spec {ps : List (Value × Value)} (h : keysAscending rt ps) :
    ∃ ks : List GoString, ps.map (fun p => p.1.toString rt) = ks.map .ok ∧ ks.Sorted (· < ·) := by
  unfold keysAscending at h
  split at h
  · next ks hks =>
    exact ⟨ks, map_eq_of_forall₂ ((Result.mapM_ok_forall₂ hks).imp fun _ _ h => h.symm) |>.symm,
      of_decide_eq_true h⟩
  · cases h

end Value

open Value

variable (rt : Runtime)

/-- The encoding of a payload an optional carries whole is a leaf behind its
    `NestedValue`s, never a `NullFlag`: no NULL at any type. -/
theorem nullValueFromYDB_toYDB : ∀ v : Value, v.nestsInOptional → v.readsBack rt →
    ∀ t, nullValueFromYDB v.toYDB t = none
  -- A scalar's leaf is no NULL.
  | .scalar s, _, _, t => nullValueFromYDB_scalar s t
  -- An optional around a scalar other than a UUID is encoded as the scalar's leaf.
  | .optionalValue _ (some (.scalar s)), _, hr, t => by
    have hu : s.primitiveType ≠ .TypeUUID := by simpa [readsBack, nestsInOptional] using hr
    show nullValueFromYDB (.leaf s.toYDB.value) t = none
    rw [← Scalar.toYDB_eq_leaf s hu, nullValueFromYDB_scalar]
  -- An optional around a present optional is nested: look through the `NestedValue`.
  | .optionalValue _ (some (.optionalValue t' (some y))), _, hr, t => by
    have hy : (optionalValue t' (some y)).readsBack rt := (Bool.and_eq_true_iff.mp hr).2
    show nullValueFromYDB (.leaf (.nestedValue (optionalValue t' (some y)).toYDB)) t = none
    rw [Ydb.Value.leaf, nullValueFromYDB_nested]
    exact nullValueFromYDB_toYDB (optionalValue t' (some y)) rfl hy t
  -- No other payload reads back inside an optional.
  | .optionalValue _ (some (.optionalValue _ none)), _, hr, _
  | .optionalValue _ (some (.decimalValue _ _ _)), _, hr, _
  | .optionalValue _ (some (.dictValue _ _)), _, hr, _
  | .optionalValue _ (some (.listValue _ _)), _, hr, _
  | .optionalValue _ (some (.structValue _ _)), _, hr, _
  | .optionalValue _ (some (.tupleValue _ _)), _, hr, _
  | .optionalValue _ (some (.variantValue _ _ _)), _, hr, _
  | .optionalValue _ (some .voidValue), _, hr, _ => by simp [readsBack, nestsInOptional] at hr
  -- The rest are not carried whole by an optional.
  | .optionalValue _ none, h, _, _ | .decimalValue _ _ _, h, _, _ | .dictValue _ _, h, _, _
  | .listValue _ _, h, _, _ | .structValue _ _, h, _, _ | .tupleValue _ _, h, _, _
  | .variantValue _ _ _, h, _, _ | .voidValue, h, _, _ => by cases h

/-- Tuple items, each decoded back from its encoding at its own type. -/
theorem tupleItemsFromYDB_toYDB (n : Nat) :
    ∀ (i : Nat) (vs : List Value), (∀ v ∈ vs, fromYDBAt rt v.type v.toYDB = .ok v) →
      tupleItemsFromYDB rt n i (vs.map Value.type) (vs.map Value.toYDB) = .ok vs
  | _, [], _ => rfl
  | i, v :: vs, h => by
    show (do return (← (fromYDBAt rt v.type v.toYDB).orPanic) ::
      (← tupleItemsFromYDB rt n (i + 1) (vs.map Value.type) (vs.map Value.toYDB))) = _
    rw [h v (.head _), tupleItemsFromYDB_toYDB n (i + 1) vs fun w hw => h w (.tail _ hw)]
    rfl

/-- Struct fields, each decoded back from its encoding at its member's type. -/
theorem structFieldsFromYDB_toYDB (n : Nat) :
    ∀ (i : Nat) (fs : List (GoString × Value)),
      (∀ f : GoString × Value, f ∈ fs → fromYDBAt rt f.2.type f.2.toYDB = .ok f.2) →
      structFieldsFromYDB rt n i (fs.map fun f => (f.1, f.2.type)) (fs.map fun f => f.2.toYDB) = .ok fs
  | _, [], _ => rfl
  | i, (name, v) :: fs, h => by
    show (do return (name, ← (fromYDBAt rt v.type v.toYDB).orPanic) ::
      (← structFieldsFromYDB rt n (i + 1) (fs.map fun (f : GoString × Value) => (f.1, f.2.type))
        (fs.map fun (f : GoString × Value) => f.2.toYDB))) = _
    rw [h (name, v) (.head _), structFieldsFromYDB_toYDB n (i + 1) fs fun f hf => h f (.tail _ hf)]
    rfl

mutual
/-- A well-typed value that reads back is decoded, at its own type, from its
    encoding. -/
theorem fromYDBAt_toYDB : ∀ v : Value, v.wellTyped → v.readsBack rt →
    fromYDBAt rt v.type v.toYDB = .ok v
  -- A scalar is its leaf, read back by its kind's getter.
  | .scalar s, _, _ => by
    rw [Value.type, Value.toYDB, fromYDBAt, nullValueFromYDB_scalar]
    exact primitiveValueFromYDB_toYDB s
  -- A decimal travels as its two halves, joined back.
  | .decimalValue b p s, _, _ => by
    show Except.ok (DecimalValue (BigEndianUint128 b.hi b.lo) p s) = _
    rw [BigEndianUint128_split]; rfl
  | .voidValue, _, _ => rfl
  -- A NULL travels as a `NullFlag`, read back as the NULL of the optional type.
  | .optionalValue t none, hw, _ => by cases t <;> first | rfl | cases hw
  -- A present optional has the optional of its payload's type, and the payload decodes.
  | .optionalValue t (some x), hw, hr => by
    obtain ⟨e, rfl, hxt, hxw⟩ : ∃ e, t = .optionalType e ∧ x.type = e ∧ x.wellTyped := by
      cases t <;> first | cases hw | exact ⟨_, rfl, by simpa [wellTyped] using hw⟩
    obtain ⟨hn, hxr⟩ := Bool.and_eq_true_iff.mp hr
    subst hxt
    have hx := fromYDBAt_toYDB x hxw hxr
    cases x with
    | scalar s =>
      -- The payload's leaf is the optional's encoding.
      have hu : s.primitiveType ≠ .TypeUUID := by simpa [nestsInOptional] using hn
      obtain ⟨hnn, -⟩ := Conforms.primitive_leaf rt (.inl ⟨s, rfl, rfl⟩)
      show fromYDBAt rt (.optionalType (.primitive s.primitiveType)) (.leaf s.toYDB.value) = _
      rw [← Scalar.toYDB_eq_leaf s hu, fromYDBAt, nullValueFromYDB_scalar]
      dsimp only
      split
      · next y h => exact absurd h (hnn y)
      · rw [show fromYDBAt rt (.primitive s.primitiveType) s.toYDB = .ok (.scalar s) from hx]; rfl
    | optionalValue t' y =>
      -- The payload's encoding is nested, and holds no NULL.
      show fromYDBAt rt (.optionalType t') (.leaf (.nestedValue (optionalValue t' y).toYDB)) = _
      rw [fromYDBAt, Ydb.Value.leaf, nullValueFromYDB_nested, nullValueFromYDB_toYDB rt _ hn hxr]
      dsimp only
      rw [show fromYDBAt rt t' (optionalValue t' y).toYDB = .ok (optionalValue t' y) from hx]; rfl
    | _ => cases hn
  -- A list of at least one item decodes item by item; `ListValue` takes the type
  -- from the first.
  | .listValue t items, hw, hr => by
    obtain ⟨hne, hir⟩ := Bool.and_eq_true_iff.mp hr
    have hne : items.isEmpty = false := by simpa using hne
    obtain ⟨e, rfl, hiw⟩ : ∃ e, t = .listType e ∧ ∀ x ∈ items, x.type = e ∧ x.wellTyped := by
      cases t <;> first | exact ⟨_, rfl, (itemsWellTyped_iff _ _).mp hw⟩ | cases hw |
        exact absurd (hw.symm.trans hne) Bool.noConfusion
    have hi := items_fromYDBAt_toYDB items (fun x hx => (hiw x hx).2) hir
    obtain ⟨v, vs, rfl⟩ := List.exists_cons_of_ne_nil (by simpa using hne)
    rw [Value.type, Value.toYDB, fromYDBAt, nullValueFromYDB_unset (by rfl)]
    dsimp only
    rw [itemsToYDB_eq_map, Result.mapM_map_eq_ok fun x hx => by rw [← (hiw x hx).1, hi x hx]; rfl]
    simp [ListValue_eq, (hiw v (.head _)).1]
  -- A tuple decodes item by item at its members' types.
  | .tupleValue ts items, hw, hr => by
    obtain ⟨rfl, hiw⟩ := (tupleWellTyped_iff ts items).mp hw
    rw [Value.type, Value.toYDB, fromYDBAt, nullValueFromYDB_unset (by rfl)]
    dsimp only
    rw [itemsToYDB_eq_map, tupleItemsFromYDB_toYDB rt _ 0 items (items_fromYDBAt_toYDB items hiw hr)]
    rfl
  -- A struct decodes field by field; its names are ascending, so `StructValue`
  -- keeps the order.
  | .structValue ts fields, hw, hr => by
    obtain ⟨rfl, hfw⟩ := (fieldsWellTyped_iff ts fields).mp hw
    obtain ⟨hs, hfr⟩ := Bool.and_eq_true_iff.mp hr
    rw [Value.type, Value.toYDB, fromYDBAt, nullValueFromYDB_unset (by rfl)]
    dsimp only
    rw [fieldsToYDB_eq_map,
      structFieldsFromYDB_toYDB rt _ 0 fields (fields_fromYDBAt_toYDB fields hfw hfr)]
    simp [StructValue_of_sorted rt (names_sorted_of_map rfl (of_decide_eq_true hs))]
  -- A dict decodes pair by pair; its keys render in ascending order, so
  -- `DictValue` keeps the order.
  | .dictValue t ps, hw, hr => by
    obtain ⟨⟨hne, hk⟩, hpr⟩ := (Bool.and_eq_true_iff.mp hr).imp_left Bool.and_eq_true_iff.mp
    obtain ⟨k, w, rfl, hpw⟩ : ∃ k w, t = .dictType k w ∧ ∀ p ∈ ps,
        p.1.type = k ∧ p.2.type = w ∧ p.1.wellTyped ∧ p.2.wellTyped := by
      cases t <;> first | cases hw | exact ⟨_, _, rfl, (pairsWellTyped_iff _ _ _).mp hw⟩
    have hp := pairs_fromYDBAt_toYDB ps (fun p hp => ⟨(hpw p hp).2.2.1, (hpw p hp).2.2.2⟩) hpr
    obtain ⟨⟨a, b⟩, qs, rfl⟩ := List.exists_cons_of_ne_nil (by simpa using hne)
    obtain ⟨ks, hks, hsorted⟩ := keysAscending_spec rt hk
    rw [Value.type, Value.toYDB, fromYDBAt, nullValueFromYDB_unset (by rfl)]
    dsimp only
    rw [pairsToYDB_eq_map, Result.mapM_map_eq_ok fun p hp' => by
      rw [← (hpw p hp').1, ← (hpw p hp').2.1, (hp p hp').1, (hp p hp').2]; rfl]
    simp [DictValue, sortByKey_eq_self rt hks hsorted, (hpw (a, b) (.head _)).1, (hpw (a, b) (.head _)).2.1]
  -- A variant is its tuple or struct behind a `NestedValue`, decoded as that
  -- container, with the index copied.
  | .variantValue t (.tupleValue ts items) idx, hw, hr => by
    obtain ⟨ts', rfl, hxt, hxw⟩ : ∃ ts', t = .variantTupleType ts' ∧ ts = ts' ∧
        (tupleValue ts items).wellTyped := by
      cases t <;> first | cases hw | exact
        have h := Bool.and_eq_true_iff.mp (Bool.and_eq_true_iff.mp hw).1
        ⟨_, rfl, Ty.tupleType.inj (eq_of_beq h.1), h.2⟩
    obtain ⟨rfl, hiw⟩ := (tupleWellTyped_iff _ items).mp hxw
    have hi := items_fromYDBAt_toYDB items hiw hr
    subst hxt
    rw [Value.type, Value.toYDB, fromYDBAt]
    simp [Value.toYDB, Ydb.Value.leaf, nullValueFromYDB, tupleItemsFromYDB_toYDB rt _ 0 items hi, TupleValue]
  | .variantValue t (.structValue fs fields) idx, hw, hr => by
    obtain ⟨fs', rfl, hxt, hxw⟩ : ∃ fs', t = .variantStructType fs' ∧ fs = fs' ∧
        (structValue fs fields).wellTyped := by
      cases t <;> first | cases hw | exact
        have h := Bool.and_eq_true_iff.mp (Bool.and_eq_true_iff.mp hw).1
        ⟨_, rfl, Ty.structType.inj (eq_of_beq h.1), h.2⟩
    obtain ⟨rfl, hfw⟩ := (fieldsWellTyped_iff _ fields).mp hxw
    obtain ⟨hs, hfr⟩ := Bool.and_eq_true_iff.mp hr
    have hf := fields_fromYDBAt_toYDB fields hfw hfr
    subst hxt
    rw [Value.type, Value.toYDB, fromYDBAt]
    simp [Value.toYDB, Ydb.Value.leaf, nullValueFromYDB, structFieldsFromYDB_toYDB rt _ 0 fields hf,
      StructValue_of_sorted rt (names_sorted_of_map rfl (of_decide_eq_true hs))]
  -- A variant around anything else does not read back.
  | .variantValue _ (.scalar _) _, _, hr | .variantValue _ (.decimalValue _ _ _) _, _, hr
  | .variantValue _ (.dictValue _ _) _, _, hr | .variantValue _ (.listValue _ _) _, _, hr
  | .variantValue _ (.optionalValue _ _) _, _, hr | .variantValue _ (.variantValue _ _ _) _, _, hr
  | .variantValue _ .voidValue _, _, hr => by cases hr

/-- Every item of a list that reads back is decoded from its encoding. -/
theorem items_fromYDBAt_toYDB : ∀ items : List Value, (∀ v ∈ items, v.wellTyped) →
    itemsReadBack rt items → ∀ v ∈ items, fromYDBAt rt v.type v.toYDB = .ok v
  | [], _, _ => nofun
  | v :: vs, hw, hr => List.forall_mem_cons.mpr
    ⟨fromYDBAt_toYDB v (hw v (.head _)) (Bool.and_eq_true_iff.mp hr).1,
      items_fromYDBAt_toYDB vs (fun w hw' => hw w (.tail _ hw')) (Bool.and_eq_true_iff.mp hr).2⟩

/-- Every field value of a struct that reads back is decoded from its encoding. -/
theorem fields_fromYDBAt_toYDB : ∀ fields : List (GoString × Value), (∀ f ∈ fields, f.2.wellTyped) →
    fieldsReadBack rt fields → ∀ f ∈ fields, fromYDBAt rt f.2.type f.2.toYDB = .ok f.2
  | [], _, _ => nofun
  | (n, v) :: fs, hw, hr => List.forall_mem_cons.mpr
    ⟨fromYDBAt_toYDB v (hw (n, v) (.head _)) (Bool.and_eq_true_iff.mp hr).1,
      fields_fromYDBAt_toYDB fs (fun f hf => hw f (.tail _ hf)) (Bool.and_eq_true_iff.mp hr).2⟩

/-- Every key and payload of a dict that reads back is decoded from its encoding. -/
theorem pairs_fromYDBAt_toYDB : ∀ ps : List (Value × Value),
    (∀ p ∈ ps, p.1.wellTyped ∧ p.2.wellTyped) → pairsReadBack rt ps →
    ∀ p ∈ ps, fromYDBAt rt p.1.type p.1.toYDB = .ok p.1 ∧ fromYDBAt rt p.2.type p.2.toYDB = .ok p.2
  | [], _, _ => nofun
  | (a, b) :: ps, hw, hr => by
    obtain ⟨⟨ha, hb⟩, hps⟩ := (Bool.and_eq_true_iff.mp hr).imp_left Bool.and_eq_true_iff.mp
    exact List.forall_mem_cons.mpr
      ⟨⟨fromYDBAt_toYDB a (hw (a, b) (.head _)).1 ha, fromYDBAt_toYDB b (hw (a, b) (.head _)).2 hb⟩,
        pairs_fromYDBAt_toYDB ps (fun p hp => hw p (.tail _ hp)) hps⟩
end

/-- `FromYDB` of the typed value `ToYDB` sends returns, without a panic, the
    value sent, for every well-typed value that reads back. -/
theorem FromYDB_ToYDB (v : Value) (hw : v.wellTyped) (hr : v.readsBack rt) :
    FromYDB rt (ToYDB v).1 (ToYDB v).2 = .ok v := by
  rw [ToYDB, FromYDB_toYDB, fromYDBAt_toYDB rt v hw hr]
  rfl

/-- A dict of two `Int32` keys, one with an optional text and one with a NULL. -/
theorem FromYDB_ToYDB_dict :
    (Value.dictValue (.dictType (.primitive .TypeInt32) (.optionalType (.primitive .TypeText)))
        [(.scalar (.int32Value 1), OptionalValue (.scalar (.textValue (lit "a")))),
          (.scalar (.int32Value 2), NullValue (.primitive .TypeText))]).wellTyped ∧
    (Value.dictValue (.dictType (.primitive .TypeInt32) (.optionalType (.primitive .TypeText)))
        [(.scalar (.int32Value 1), OptionalValue (.scalar (.textValue (lit "a")))),
          (.scalar (.int32Value 2), NullValue (.primitive .TypeText))]).readsBack Runtime.insertion ∧
    FromYDB Runtime.insertion
        (ToYDB (.dictValue (.dictType (.primitive .TypeInt32) (.optionalType (.primitive .TypeText)))
          [(.scalar (.int32Value 1), OptionalValue (.scalar (.textValue (lit "a")))),
            (.scalar (.int32Value 2), NullValue (.primitive .TypeText))])).1
        (ToYDB (.dictValue (.dictType (.primitive .TypeInt32) (.optionalType (.primitive .TypeText)))
          [(.scalar (.int32Value 1), OptionalValue (.scalar (.textValue (lit "a")))),
            (.scalar (.int32Value 2), NullValue (.primitive .TypeText))])).2 =
      .ok (.dictValue (.dictType (.primitive .TypeInt32) (.optionalType (.primitive .TypeText)))
        [(.scalar (.int32Value 1), OptionalValue (.scalar (.textValue (lit "a")))),
          (.scalar (.int32Value 2), NullValue (.primitive .TypeText))]) :=
  ⟨rfl, rfl, FromYDB_ToYDB _ _ rfl rfl⟩


/-! ## Constructors build values that read back -/

namespace Value

/-- Items read back when each one does. -/
@[simp] theorem itemsReadBack_iff (vs : List Value) : itemsReadBack rt vs ↔ ∀ v ∈ vs, v.readsBack rt := by
  induction vs with
  | nil => simp [itemsReadBack]
  | cons v vs ih => simp [itemsReadBack, ih]

/-- Fields read back when each value does. -/
@[simp] theorem fieldsReadBack_iff (fs : List (GoString × Value)) :
    fieldsReadBack rt fs ↔ ∀ f ∈ fs, f.2.readsBack rt := by
  induction fs with
  | nil => simp [fieldsReadBack]
  | cons f fs ih => obtain ⟨_, _⟩ := f; simp [fieldsReadBack, ih]

/-- Pairs read back when each key and each payload does. -/
@[simp] theorem pairsReadBack_iff (ps : List (Value × Value)) :
    pairsReadBack rt ps ↔ ∀ p ∈ ps, p.1.readsBack rt ∧ p.2.readsBack rt := by
  induction ps with
  | nil => simp [pairsReadBack]
  | cons p ps ih => obtain ⟨_, _⟩ := p; simp [pairsReadBack, ih, and_assoc]

end Value

/-- A list of at least one item that reads back reads back. -/
theorem ListValue_readsBack (items : List Value) (r : Value) (hne : items ≠ [])
    (hr : ∀ v ∈ items, v.readsBack rt) (h : ListValue items = .ok r) : r.readsBack rt := by
  rw [ListValue_eq] at h
  cases h
  simpa [readsBack, hne] using hr

/-- A tuple of items that read back reads back. -/
theorem TupleValue_readsBack (items : List Value) (hr : ∀ v ∈ items, v.readsBack rt) :
    (TupleValue items).readsBack rt := by
  simpa [TupleValue, readsBack] using hr

/-- A struct of fields with distinct names whose values read back reads back: `StructValue`
    puts the names in the strictly ascending order the decoder keeps. -/
theorem StructValue_readsBack (fields : List (GoString × Value)) (hd : (fields.map Prod.fst).Nodup)
    (hr : ∀ f ∈ fields, f.2.readsBack rt) : (StructValue rt fields).readsBack rt := by
  obtain ⟨ms, hms, hs⟩ := StructValue_names_sorted rt hd
  show (namesAscending _ && fieldsReadBack rt (rt.sortSlice Prod.fst fields)) = true
  rw [Ty.structType.inj hms, namesAscending, decide_eq_true hs, Bool.true_and, fieldsReadBack_iff]
  exact fun f hf => hr f ((rt.sortSlice_perm Prod.fst fields).subset hf)

/-- A dict whose keys render to distinct strings, and whose keys and payloads read back, reads
    back: `DictValue` sorts the pairs into the order the decoder keeps. -/
theorem DictValue_readsBack (ps : List (Value × Value)) (d : Value) (render : Value → GoString)
    (hk : ∀ p ∈ ps, p.1.toString rt = .ok (render p.1)) (hd : (ps.map fun p => render p.1).Nodup)
    (hr : ∀ p ∈ ps, p.1.readsBack rt ∧ p.2.readsBack rt) (h : DictValue rt ps = .ok d) :
    d.readsBack rt := by
  cases hs : sortByKey rt ps with
  | error e => simp [DictValue, hs] at h
  | ok sorted =>
    have hp := sortByKey_perm rt hs
    have hsorted := sortByKey_sorted rt render hk hd hs
    cases sorted with
    | nil => simp [DictValue, hs] at h
    | cons kv rest =>
      simp only [DictValue, hs, Result.ok_bind, Except.ok.injEq] at h
      subst h
      -- The sorted keys render, in order, to the strictly ascending renderings.
      have hm : (kv :: rest).mapM (fun p => p.1.toString rt) = .ok ((kv :: rest).map fun p => render p.1) :=
        Result.mapM_eq_ok _ fun p hp' => hk p (hp.subset hp')
      simp only [readsBack, keysAscending, hm, decide_eq_true hsorted]
      simpa using fun p hp' => hr p (hp.subset hp')

/-- An optional around a payload that its encoding carries whole, and that reads back, reads
    back. -/
theorem OptionalValue_readsBack (v : Value) (hn : v.nestsInOptional) (hr : v.readsBack rt) :
    (OptionalValue v).readsBack rt := by
  simp [OptionalValue, readsBack, hn, hr]

/-- Every NULL reads back. -/
theorem NullValue_readsBack (t : Ty) : (NullValue t).readsBack rt := rfl

/-- A variant of a tuple that reads back reads back, at any index. -/
theorem VariantValueTuple_readsBack (v : Value) (idx : BitVec 32) (r : Value) (hr : v.readsBack rt)
    (h : VariantValueTuple v idx = .ok r) : r.readsBack rt := by
  cases v <;> simp only [VariantValueTuple, Except.ok.injEq, reduceCtorEq] at h
  subst h
  exact hr

/-- A variant of a struct that reads back reads back, at any index. -/
theorem VariantValueStruct_readsBack (v : Value) (idx : BitVec 32) (r : Value) (hr : v.readsBack rt)
    (h : VariantValueStruct v idx = .ok r) : r.readsBack rt := by
  cases v <;> simp only [VariantValueStruct, Except.ok.injEq, reduceCtorEq] at h
  subst h
  exact hr

/-- The constructors build values that read back from parts that do: a list
    needs an item, a struct fields of distinct names, a dict keys that render to
    distinct strings, and an optional a payload it carries whole. -/
theorem constructors_readsBack :
    (∀ items r, items ≠ [] → (∀ v ∈ items, v.readsBack rt) → ListValue items = .ok r →
      r.readsBack rt) ∧
    (∀ items, (∀ v ∈ items, v.readsBack rt) → (TupleValue items).readsBack rt) ∧
    (∀ fields, (fields.map Prod.fst).Nodup → (∀ f ∈ fields, f.2.readsBack rt) →
      (StructValue rt fields).readsBack rt) ∧
    (∀ ps d (render : Value → GoString), (∀ p ∈ ps, p.1.toString rt = .ok (render p.1)) →
      (ps.map fun p => render p.1).Nodup → (∀ p ∈ ps, p.1.readsBack rt ∧ p.2.readsBack rt) →
      DictValue rt ps = .ok d → d.readsBack rt) ∧
    (∀ v, v.nestsInOptional → v.readsBack rt → (OptionalValue v).readsBack rt) ∧
    (∀ t, (NullValue t).readsBack rt) ∧
    (∀ v idx r, v.readsBack rt → VariantValueTuple v idx = .ok r → r.readsBack rt) ∧
    (∀ v idx r, v.readsBack rt → VariantValueStruct v idx = .ok r → r.readsBack rt) :=
  ⟨ListValue_readsBack rt, TupleValue_readsBack rt, StructValue_readsBack rt, DictValue_readsBack rt,
    OptionalValue_readsBack rt, NullValue_readsBack rt, VariantValueTuple_readsBack rt,
    VariantValueStruct_readsBack rt⟩

/-- Each constructor on `Int32`s: the list `[1, 2]`, the tuple `(1, 2)`, the
    struct `{b: 1, a: 2}`, the dict `{1: 2, 3: 4}`, the optional `1`, and the
    variants of that tuple and that struct. -/
theorem constructors_readsBack_int32 :
    (∃ r, ListValue [.scalar (.int32Value 1), .scalar (.int32Value 2)] = .ok r ∧
      r.readsBack .insertion) ∧
    (TupleValue [.scalar (.int32Value 1), .scalar (.int32Value 2)]).readsBack .insertion ∧
    (StructValue .insertion [(lit "b", .scalar (.int32Value 1)), (lit "a", .scalar (.int32Value 2))]
      ).readsBack .insertion ∧
    (∃ d, DictValue .insertion [(.scalar (.int32Value 1), .scalar (.int32Value 2)),
        (.scalar (.int32Value 3), .scalar (.int32Value 4))] = .ok d ∧ d.readsBack .insertion) ∧
    (OptionalValue (.scalar (.int32Value 1))).readsBack .insertion ∧
    (∃ r, VariantValueTuple (TupleValue [.scalar (.int32Value 1), .scalar (.int32Value 2)]) 1 =
      .ok r ∧ r.readsBack .insertion) ∧
    (∃ r, VariantValueStruct (StructValue .insertion
        [(lit "b", .scalar (.int32Value 1)), (lit "a", .scalar (.int32Value 2))]) 0 =
      .ok r ∧ r.readsBack .insertion) :=
  have h := constructors_readsBack .insertion
  let xs : List Value := [.scalar (.int32Value 1), .scalar (.int32Value 2)]
  let fs : List (GoString × Value) :=
    [(lit "b", .scalar (.int32Value 1)), (lit "a", .scalar (.int32Value 2))]
  let ps : List (Value × Value) := [(.scalar (.int32Value 1), .scalar (.int32Value 2)),
    (.scalar (.int32Value 3), .scalar (.int32Value 4))]
  let render (v : Value) : GoString := ((v.toString .insertion).toOption).getD []
  ⟨⟨_, rfl, h.1 xs _ (List.cons_ne_nil _ _) (by decide) rfl⟩, h.2.1 xs (by decide),
    h.2.2.1 fs (by decide) (by decide),
    ⟨_, rfl, h.2.2.2.1 ps _ render (List.forall_mem_cons.2 ⟨rfl, List.forall_mem_cons.2
      ⟨rfl, List.forall_mem_nil _⟩⟩) (by decide) (by decide) rfl⟩,
    h.2.2.2.2.1 _ rfl rfl, ⟨_, rfl, h.2.2.2.2.2.2.1 (TupleValue xs) 1 _ (by decide) rfl⟩,
    ⟨_, rfl, h.2.2.2.2.2.2.2 (StructValue .insertion fs) 0 _ (by decide) rfl⟩⟩

/-! ## What the wire loses -/

/-- An optional around a container comes back empty: `optionalValue.toYDB`
    copies only the oneof of the payload's encoding, which a container leaves
    unset. A list comes back as the empty list, of type `EmptyList`, a tuple or
    struct as the one of no members, and a dict makes `DictValue` panic. -/
theorem FromYDB_ToYDB_optional_container (e : Ty) (items : List Value)
    (fields : List (GoString × Value)) (k w : Ty) (ps : List (Value × Value)) :
    FromYDB rt (ToYDB (OptionalValue (.listValue (.listType e) items))).1
        (ToYDB (OptionalValue (.listValue (.listType e) items))).2 =
      .ok (OptionalValue (.listValue .emptyListType [])) ∧
    FromYDB rt (ToYDB (OptionalValue (TupleValue items))).1
        (ToYDB (OptionalValue (TupleValue items))).2 = .ok (OptionalValue (TupleValue [])) ∧
    FromYDB rt (ToYDB (OptionalValue (StructValue rt fields))).1
        (ToYDB (OptionalValue (StructValue rt fields))).2 = .ok (OptionalValue (StructValue rt [])) ∧
    FromYDB rt (ToYDB (OptionalValue (.dictValue (.dictType k w) ps))).1
        (ToYDB (OptionalValue (.dictValue (.dictType k w) ps))).2 =
      .error (.panic "runtime error: index out of range [0] with length 0") := by
  simp only [ToYDB, FromYDB_toYDB]
  refine ⟨rfl, by cases items <;> rfl, ?_, rfl⟩
  -- The decoder reads the struct's members off its type, built from the sorted fields.
  unfold StructValue
  generalize rt.sortSlice Prod.fst fields = sorted
  cases sorted <;> rfl

/-- An optional around a decimal or a UUID comes back with the high half of the
    payload zeroed: it travels in `High_128`, outside the oneof. -/
theorem FromYDB_ToYDB_optional_high128 (b : Bytes16) (p s : BitVec 32) :
    FromYDB rt (ToYDB (OptionalValue (DecimalValue b p s))).1
        (ToYDB (OptionalValue (DecimalValue b p s))).2 =
      .ok (OptionalValue (DecimalValue (BigEndianUint128 0 b.lo) p s)) ∧
    FromYDB rt (ToYDB (OptionalValue (UUIDValue b))).1 (ToYDB (OptionalValue (UUIDValue b))).2 =
      .ok (OptionalValue (UUIDValue (BigEndianUint128 0 b.lo))) := by
  simp only [ToYDB, FromYDB_toYDB]
  exact ⟨rfl, rfl⟩

/-- An optional around Void or around a NULL comes back as the optional's own
    NULL: both payloads are encoded as a `NullFlag`, which `nullValueFromYDB`
    reads as the NULL of the outer type. -/
theorem FromYDB_ToYDB_optional_null (t : Ty) :
    FromYDB rt (ToYDB (OptionalValue VoidValue)).1 (ToYDB (OptionalValue VoidValue)).2 =
      .ok (NullValue .voidType) ∧
    FromYDB rt (ToYDB (OptionalValue (NullValue t))).1 (ToYDB (OptionalValue (NullValue t))).2 =
      .ok (NullValue (.optionalType t)) := by
  simp only [ToYDB, FromYDB_toYDB]
  exact ⟨rfl, rfl⟩

/-- An optional around a variant panics: the oneof it copies is the variant's
    `NestedValue`, whose own oneof is unset, so the variant case's type
    assertion finds no `NestedValue` one level down. -/
theorem FromYDB_ToYDB_optional_variant (ts ts' : List Ty) (items : List Value)
    (fs fs' : List (GoString × Ty)) (fields : List (GoString × Value)) (idx : BitVec 32) :
    FromYDB rt
        (ToYDB (OptionalValue (.variantValue (.variantTupleType ts) (.tupleValue ts' items) idx))).1
        (ToYDB (OptionalValue (.variantValue (.variantTupleType ts) (.tupleValue ts' items) idx))).2 =
      .error
        (.panic "interface conversion: Ydb.isValue_Value is nil, not *Ydb.Value_NestedValue") ∧
    FromYDB rt
        (ToYDB (OptionalValue
          (.variantValue (.variantStructType fs) (.structValue fs' fields) idx))).1
        (ToYDB (OptionalValue
          (.variantValue (.variantStructType fs) (.structValue fs' fields) idx))).2 =
      .error
        (.panic "interface conversion: Ydb.isValue_Value is nil, not *Ydb.Value_NestedValue") := by
  simp only [ToYDB, FromYDB_toYDB]
  exact ⟨rfl, rfl⟩

end YdbSdk
