import YdbSdk.Value.Construct

/-!
# Struct Fields as a Go Map

`structValue.Fields()` copies a struct's fields into a `map[string]Value`, one
assignment `fields[f.Name] = f.V` per field, in order. A string always hashes,
so unlike `dictValue.Values()` the loop cannot panic. What it can do is lose a
field: two fields of one name make one entry, which holds the later field's
value. `Fields_map` says exactly what the map holds for any stored fields: every
name once, and for each name the value of its last field.

`StructValue` sorts the fields by name before storing them, and `Fields()` reads
them in the stored order. For fields with pairwise distinct names nothing is
lost, and the map holds the fields as given, whatever order they were passed in
(`StructValue_Fields`). With a name given twice, which value survives is up to
`sort.Slice`, which need not keep fields with equal names in order.

As for `dictValue.Values()`, the map's entries are kept in the order their keys
were first assigned; Go's iteration order is unspecified, and no statement here
depends on the order.

## Main definitions

* `structValue.assignField`: `m[name] = v` on a `map[string]Value`.
* `structValue.Fields`: `v.Fields()` of a `*structValue`.

## Theorems

* `lookup_assignField`: An assignment changes only its own name's value.
* `Fields_map`: The names once each, each with the value of its last field.
* `Fields_of_nodup`: With distinct names the map is the fields themselves.
* `StructValue_Fields`: `StructValue(fields...).Fields()` is `fields`, in any order.
-/

namespace YdbSdk

namespace structValue

/-- `m[name] = v` on the entries of a `map[string]Value`, in the order their
    keys were first assigned: the entry of `name` takes `v`, or a new entry comes
    last. -/
def assignField : List (GoString × Value) → GoString → Value → List (GoString × Value)
  | [], name, v => [(name, v)]
  | (n, v') :: es, name, v => if n = name then (name, v) :: es else (n, v') :: assignField es name v

/-- `v.Fields()` of a `*structValue` holding `fields`: `make(map[string]Value)`,
    then `fields[f.Name] = f.V` for each field in order. -/
def Fields (fields : List (GoString × Value)) : List (GoString × Value) :=
  fields.foldl (fun m f => assignField m f.1 f.2) []

section Assign

variable {es : List (GoString × Value)} {name k : GoString} {v : Value}

/-- A lookup finds the first entry when its name is the key, and looks further otherwise. -/
theorem lookup_cons_pair (n : GoString) (v : Value) :
    ((n, v) :: es).lookup k = if k = n then some v else es.lookup k := by
  by_cases h : k = n
  · subst h
    simp [List.lookup_cons]
  · rw [List.lookup_cons, beq_false_of_ne h, if_neg h]

/-- An assignment changes only its own name's value. -/
theorem lookup_assignField :
    (assignField es name v).lookup k = if k = name then some v else es.lookup k := by
  induction es with
  | nil => rw [assignField, lookup_cons_pair]
  | cons e es ih =>
    obtain ⟨n, v'⟩ := e
    by_cases hn : n = name
    · subst hn
      -- The first entry holds the name, and takes the new value in place.
      by_cases h : k = n <;> simp [assignField, lookup_cons_pair, h]
    · by_cases h : k = n
      · subst h
        simp [assignField, lookup_cons_pair, hn]
      · simp only [assignField, hn, if_false, lookup_cons_pair, h, ih]

/-- An assignment adds its own name to the map's names, and no other. -/
theorem mem_keys_assignField :
    k ∈ (assignField es name v).map Prod.fst ↔ k = name ∨ k ∈ es.map Prod.fst := by
  induction es with
  | nil => simp [assignField]
  | cons e es ih =>
    obtain ⟨n, v'⟩ := e
    by_cases hn : n = name
    · subst hn
      simp [assignField]
    -- Another name in front stays, and the assignment goes on in the rest.
    · simp only [assignField, hn, if_false, List.map_cons, List.mem_cons, ih]
      exact or_left_comm

/-- Assigning a name the map does not hold appends an entry. -/
theorem assignField_of_not_mem (h : name ∉ es.map Prod.fst) :
    assignField es name v = es ++ [(name, v)] := by
  induction es with
  | nil => rfl
  | cons e es ih =>
    simp only [List.map_cons, List.mem_cons, not_or] at h
    simp [assignField, Ne.symm h.1, ih h.2]

/-- An assignment keeps the names pairwise distinct. -/
theorem nodup_keys_assignField (h : (es.map Prod.fst).Nodup) :
    ((assignField es name v).map Prod.fst).Nodup := by
  induction es with
  | nil => simp [assignField]
  | cons e es ih =>
    obtain ⟨n, v'⟩ := e
    rw [List.map_cons, List.nodup_cons] at h
    by_cases hn : n = name
    · subst hn
      simpa [assignField] using h
    -- Another name in front stays, and the assigned name is not it.
    · simp only [assignField, hn, if_false, List.map_cons, List.nodup_cons, mem_keys_assignField]
      exact ⟨fun h' => h.1 (h'.resolve_left id), ih h.2⟩

end Assign

/-- What `Fields()` holds for any stored fields: every name once, and for each
    name the value of the last field carrying it. -/
theorem Fields_map (fields : List (GoString × Value)) :
    ((Fields fields).map Prod.fst).Nodup ∧
      (∀ k, k ∈ (Fields fields).map Prod.fst ↔ k ∈ fields.map Prod.fst) ∧
      ∀ k, (Fields fields).lookup k = fields.reverse.lookup k := by
  induction fields using List.reverseRecOn with
  | nil => exact ⟨List.nodup_nil, fun _ => Iff.rfl, fun _ => rfl⟩
  | append_singleton fs f ih =>
    obtain ⟨hd, hm, hl⟩ := ih
    -- The loop's last step assigns the last field.
    have hstep : Fields (fs ++ [f]) = assignField (Fields fs) f.1 f.2 := by
      rw [Fields, List.foldl_append]
      rfl
    refine ⟨hstep ▸ nodup_keys_assignField hd, fun k => ?_, fun k => ?_⟩
    -- The names: those before, and the last field's.
    · rw [hstep, mem_keys_assignField, hm, List.map_append, List.mem_append, List.map_singleton,
        List.mem_singleton]
      exact or_comm
    · obtain ⟨n, v⟩ := f
      -- A lookup finds the last field first when reading the fields from the end.
      rw [hstep, lookup_assignField, hl, List.reverse_append, List.reverse_singleton,
        List.singleton_append, lookup_cons_pair]

/-- With pairwise distinct names the loop only appends: the map is the fields. -/
theorem Fields_of_nodup {fields : List (GoString × Value)} (h : (fields.map Prod.fst).Nodup) :
    Fields fields = fields := by
  induction fields using List.reverseRecOn with
  | nil => rfl
  | append_singleton fs f ih =>
    rw [List.map_append, List.nodup_append] at h
    -- The last name is new, so its assignment appends.
    have hf : f.1 ∉ (Fields fs).map Prod.fst := by
      rw [ih h.1]
      exact fun hm => h.2.2 hm (List.mem_singleton_self _)
    rw [Fields, List.foldl_append, ← Fields, ih h.1]
    show assignField fs f.1 f.2 = _
    rw [← ih h.1, assignField_of_not_mem hf]

end structValue

open structValue

/-- With distinct keys, a key finds the one entry it is in. -/
theorem lookup_eq_of_mem_nodup {es : List (GoString × Value)} {k : GoString} {v : Value}
    (hd : (es.map Prod.fst).Nodup) (h : (k, v) ∈ es) : es.lookup k = some v := by
  induction es with
  | nil => cases h
  | cons e es ih =>
    obtain ⟨k', v'⟩ := e
    rw [List.map_cons, List.nodup_cons] at hd
    rcases List.mem_cons.mp h with h | h
    · cases h
      -- The entry is the first, found at once.
      simp [List.lookup_cons]
    -- A later entry: its key is not the first's, which the lookup passes.
    · have hne : k ≠ k' := fun he => hd.1 (he ▸ List.mem_map.mpr ⟨_, h, rfl⟩)
      rw [List.lookup_cons, beq_false_of_ne hne]
      exact ih hd.2 h

/-- A key found maps to a value it is stored with. -/
theorem mem_of_lookup_eq_some {es : List (GoString × Value)} {k : GoString} {v : Value}
    (h : es.lookup k = some v) : (k, v) ∈ es := by
  induction es with
  | nil => cases h
  | cons e es ih =>
    obtain ⟨k', v'⟩ := e
    by_cases hk : k = k'
    · subst hk
      -- The first key matches: the value is the first entry's.
      simp only [List.lookup_cons, beq_self_eq_true, Option.some.injEq] at h
      exact h ▸ List.mem_cons_self _ _
    -- Another first key: the lookup found the value further on.
    · rw [List.lookup_cons, beq_false_of_ne hk] at h
      exact List.mem_cons_of_mem _ (ih h)

/-- Lists of the same entries with distinct keys answer every lookup alike. -/
theorem lookup_eq_of_perm {es fs : List (GoString × Value)} (hp : es.Perm fs)
    (hd : (es.map Prod.fst).Nodup) (k : GoString) : es.lookup k = fs.lookup k :=
  have hd' : (fs.map Prod.fst).Nodup := (hp.map Prod.fst).nodup_iff.mp hd
  Option.ext fun _ => ⟨fun h => lookup_eq_of_mem_nodup hd' (hp.subset (mem_of_lookup_eq_some h)),
    fun h => lookup_eq_of_mem_nodup hd (hp.symm.subset (mem_of_lookup_eq_some h))⟩

variable (rt : Runtime)

/-- For fields with pairwise distinct names, `StructValue(fields...).Fields()`
    holds exactly the fields given, each name finding its own value, in whatever
    order they were passed. -/
theorem StructValue_Fields (fields : List (GoString × Value)) (hd : (fields.map Prod.fst).Nodup) :
    ∃ stored, StructValue rt fields = .structValue (stored.map fun f => (f.1, f.2.type)) stored ∧
      (Fields stored).Perm fields ∧ ∀ k, (Fields stored).lookup k = fields.lookup k := by
  have hp := rt.sortSlice_perm Prod.fst fields
  have hds : ((rt.sortSlice Prod.fst fields).map Prod.fst).Nodup := (hp.map Prod.fst).nodup_iff.mpr hd
  refine ⟨rt.sortSlice Prod.fst fields, rfl, ?_, fun k => ?_⟩
  · rw [Fields_of_nodup hds]
    exact hp
  · rw [Fields_of_nodup hds]
    exact lookup_eq_of_perm hp hds k

/-- Two fields passed out of order. -/
theorem StructValue_Fields_two :
    ([(GoString.lit "b", Value.scalar (.int32Value 1)), (GoString.lit "a", .scalar (.int32Value 2))].map
        Prod.fst).Nodup ∧
      ∃ stored, StructValue Runtime.insertion
          [(GoString.lit "b", .scalar (.int32Value 1)), (GoString.lit "a", .scalar (.int32Value 2))] =
          .structValue (stored.map fun f => (f.1, f.2.type)) stored ∧
        (Fields stored).Perm
          [(GoString.lit "b", .scalar (.int32Value 1)), (GoString.lit "a", .scalar (.int32Value 2))] ∧
        ∀ k, (Fields stored).lookup k =
          [(GoString.lit "b", Value.scalar (.int32Value 1)), (GoString.lit "a", .scalar (.int32Value 2))].lookup k :=
  ⟨by decide, StructValue_Fields Runtime.insertion _ (by decide)⟩

end YdbSdk
