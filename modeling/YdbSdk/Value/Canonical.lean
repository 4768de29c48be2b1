import YdbSdk.Value.Construct

/-!
# Canonical Order of Structs and Dicts

`StructValue` and `DictValue` sort what they are given, so that a struct or a
dict does not remember the order in which it was built. Whether that works
depends on the sort key telling elements apart. Struct names do when they are
pairwise distinct, and then any comparison sort returns the one strictly
ascending arrangement. Dict keys are compared by their `toString()`, which is
not injective: `NULL` of `Optional<Text>` and the text `"NULL"` under the same
optional type render alike. Two such keys compare equal, and `sort.Slice` keeps
two equal elements in the order it was given them, so the dict built from them
depends on the argument order.

## Theorems

* `StructValue_eq_of_perm`: Permuting fields with distinct names changes nothing.
* `StructValue_names_sorted`: The type's member names are strictly ascending.
* `sortByKey_eq_of_perm`, `DictValue_eq_of_perm`: Permuting pairs whose keys
  render to distinct strings changes nothing.
* `sortByKey_sorted`: The sorted pairs' keys render in strictly ascending order.
* `DictValue_pair_eq`: Two pairs whose keys render alike keep their order.
-/

namespace YdbSdk

open GoString

variable (rt : Runtime)

section StructValue

variable {fs gs : List (GoString × Value)}

/-- Fields with pairwise distinct names give the same struct in any order. -/
theorem StructValue_eq_of_perm (hd : (fs.map Prod.fst).Nodup) (hp : fs.Perm gs) :
    StructValue rt fs = StructValue rt gs := by
  simp only [StructValue, rt.sortSlice_eq_of_perm Prod.fst hp hd]

/-- For fields with pairwise distinct names, the struct type lists the names in strictly
    ascending order. -/
theorem StructValue_names_sorted (hd : (fs.map Prod.fst).Nodup) :
    ∃ ms, (StructValue rt fs).type = .structType ms ∧ (ms.map Prod.fst).Sorted (· < ·) :=
  ⟨_, rfl, by simpa [List.map_map, Function.comp_def] using
    List.pairwise_map.mpr (rt.sortSlice_sorted_lt Prod.fst hd)⟩

/-- `StructValue` forgets the order of fields with distinct names, and its type
    lists them in strictly ascending order of name. -/
theorem StructValue_canonical (fs gs : List (GoString × Value)) (hd : (fs.map Prod.fst).Nodup)
    (hp : fs.Perm gs) :
    StructValue rt fs = StructValue rt gs ∧
      ∃ ms, (StructValue rt fs).type = .structType ms ∧ (ms.map Prod.fst).Sorted (· < ·) :=
  ⟨StructValue_eq_of_perm rt hd hp, StructValue_names_sorted rt hd⟩

/-- The fields `b` and `a`, given in either order. -/
theorem StructValue_canonical_ba :
    ([lit "b", lit "a"]).Nodup ∧
      [(lit "b", Value.scalar (.int32Value 1)), (lit "a", .scalar (.int32Value 2))].Perm
        [(lit "a", .scalar (.int32Value 2)), (lit "b", .scalar (.int32Value 1))] ∧
      (StructValue Runtime.insertion
          [(lit "b", .scalar (.int32Value 1)), (lit "a", .scalar (.int32Value 2))] =
        StructValue Runtime.insertion
          [(lit "a", .scalar (.int32Value 2)), (lit "b", .scalar (.int32Value 1))] ∧
      ∃ ms, (StructValue Runtime.insertion
          [(lit "b", .scalar (.int32Value 1)), (lit "a", .scalar (.int32Value 2))]).type =
          .structType ms ∧ (ms.map Prod.fst).Sorted (· < ·)) :=
  ⟨by decide, .swap _ _ _, StructValue_canonical _ _ _ (by decide) (.swap _ _ _)⟩

end StructValue

section DictValue

variable {ps qs : List (Value × Value)}

/-- Pairs whose keys render to pairwise distinct strings sort to the same list in any order. -/
theorem sortByKey_eq_of_perm (render : Value → GoString)
    (hr : ∀ p ∈ ps, p.1.toString rt = .ok (render p.1)) (hd : (ps.map fun p => render p.1).Nodup)
    (hp : ps.Perm qs) : sortByKey rt ps = sortByKey rt qs := by
  rcases Nat.lt_or_ge ps.length 2 with h | h
  · -- At most one pair, which has one arrangement.
    obtain rfl : ps = qs := by
      rcases ps with _ | ⟨a, _ | ⟨b, l⟩⟩
      · exact hp.nil_eq
      · exact List.singleton_perm.mp hp
      · simp only [List.length_cons] at h; omega
    rfl
  -- Two pairs or more: both sides sort the same keyed pairs, by distinct keys.
  · have hr' : ∀ q ∈ qs, q.1.toString rt = .ok (render q.1) := fun q hq => hr q (hp.mem_iff.2 hq)
    rw [sortByKey_eq rt render hr h, sortByKey_eq rt render hr' (hp.length_eq ▸ h),
      rt.sortSlice_eq_of_perm Prod.fst (hp.map _) (by simpa [Function.comp_def] using hd)]

/-- `DictValue` forgets the order of pairs whose keys render, without a panic,
    to pairwise distinct strings. -/
theorem DictValue_eq_of_perm (ps qs : List (Value × Value)) (render : Value → GoString)
    (hr : ∀ p ∈ ps, p.1.toString rt = .ok (render p.1)) (hd : (ps.map fun p => render p.1).Nodup)
    (hp : ps.Perm qs) : DictValue rt ps = DictValue rt qs := by
  simp only [DictValue, sortByKey_eq_of_perm rt render hr hd hp]

/-- The `Int32` keys 2 and 1, given in either order. -/
theorem DictValue_eq_of_perm_int32 :
    (∀ p ∈ [(Value.scalar (.int32Value 2), Value.scalar (.int32Value 0)),
        (.scalar (.int32Value 1), .scalar (.int32Value 0))],
      p.1.toString Runtime.insertion =
        .ok ((fun k => (k.toString Runtime.insertion).toOption.getD []) p.1)) ∧
    ([(Value.scalar (.int32Value 2), Value.scalar (.int32Value 0)),
        (.scalar (.int32Value 1), .scalar (.int32Value 0))].map
      fun p => (fun k => (k.toString Runtime.insertion).toOption.getD []) p.1).Nodup ∧
    [(Value.scalar (.int32Value 2), Value.scalar (.int32Value 0)),
        (.scalar (.int32Value 1), .scalar (.int32Value 0))].Perm
      [(.scalar (.int32Value 1), .scalar (.int32Value 0)),
        (.scalar (.int32Value 2), .scalar (.int32Value 0))] ∧
    DictValue Runtime.insertion [(.scalar (.int32Value 2), .scalar (.int32Value 0)),
        (.scalar (.int32Value 1), .scalar (.int32Value 0))] =
      DictValue Runtime.insertion [(.scalar (.int32Value 1), .scalar (.int32Value 0)),
        (.scalar (.int32Value 2), .scalar (.int32Value 0))] :=
  have hr : ∀ p ∈ [(Value.scalar (.int32Value 2), Value.scalar (.int32Value 0)),
        (.scalar (.int32Value 1), .scalar (.int32Value 0))],
      p.1.toString Runtime.insertion =
        .ok ((fun k => (k.toString Runtime.insertion).toOption.getD []) p.1) :=
    List.forall_mem_cons.2 ⟨rfl, List.forall_mem_cons.2 ⟨rfl, fun _ h => nomatch h⟩⟩
  ⟨hr, by decide, .swap _ _ _, DictValue_eq_of_perm _ _ _
    (fun k => (k.toString Runtime.insertion).toOption.getD []) hr (by decide) (.swap _ _ _)⟩

/-- With keys that render to pairwise distinct strings, `DictValue`'s sort
    leaves the pairs in strictly ascending order of those strings. -/
theorem sortByKey_sorted (render : Value → GoString)
    (hr : ∀ p ∈ ps, p.1.toString rt = .ok (render p.1)) (hd : (ps.map fun p => render p.1).Nodup)
    {sorted : List (Value × Value)} (hs : sortByKey rt ps = .ok sorted) :
    (sorted.map fun p => render p.1).Sorted (· < ·) := by
  rcases Nat.lt_or_ge ps.length 2 with h | h
  · -- At most one pair, which is sorted.
    rw [sortByKey, if_pos h] at hs
    cases hs
    rcases ps with _ | ⟨a, _ | ⟨b, l⟩⟩
    · exact List.sorted_nil
    · exact List.sorted_singleton _
    · simp only [List.length_cons] at h; omega
  -- Two pairs or more: the sort leaves distinct keys strictly ascending.
  · rw [sortByKey_eq rt render hr h] at hs
    cases hs
    -- Each sorted entry is keyed by its own pair's rendering.
    have hk : ∀ x ∈ rt.sortSlice Prod.fst (ps.map fun p => (render p.1, p)), render x.2.1 = x.1 := by
      intro x hx
      obtain ⟨p, -, rfl⟩ := List.mem_map.mp ((rt.sortSlice_perm _ _).subset hx)
      rfl
    rw [List.map_map, List.map_congr_left (f := (fun p : Value × Value => render p.1) ∘ Prod.snd) hk]
    exact List.pairwise_map.mpr (rt.sortSlice_sorted_lt Prod.fst (by simpa [Function.comp_def] using hd))

/-- Two pairs whose keys render alike are kept in the order given. -/
theorem DictValue_pair_eq {k₁ v₁ k₂ v₂ : Value} {s : GoString} (h₁ : k₁.toString rt = .ok s)
    (h₂ : k₂.toString rt = .ok s) :
    DictValue rt [(k₁, v₁), (k₂, v₂)] =
      .ok (.dictValue (.dictType k₁.type v₁.type) [(k₁, v₁), (k₂, v₂)]) := by
  have hs : rt.sortSlice Prod.fst [(s, (k₁, v₁)), (s, (k₂, v₂))] = [(s, (k₁, v₁)), (s, (k₂, v₂))] :=
    rt.sortSlice_pair Prod.fst _ _ (irrefl s : ¬ s < s)
  have hr : ∀ p ∈ [(k₁, v₁), (k₂, v₂)], p.1.toString rt = .ok s := by simp [h₁, h₂]
  rw [DictValue, sortByKey_eq rt (fun _ => s) hr (le_refl _)]
  simp only [List.map, hs]
  rfl

/-- The NULL of `Optional<Text>` and the text `"NULL"` under the same type are
    distinct keys that render alike, so the dict built from them keeps the
    order of the arguments (under any runtime, by `DictValue_pair_eq`). -/
theorem DictValue_null_text_keys :
    NullValue (.primitive .TypeText) ≠ OptionalValue (.scalar (.textValue (lit "NULL"))) ∧
    (NullValue (.primitive .TypeText)).type =
      (OptionalValue (.scalar (.textValue (lit "NULL")))).type ∧
    DictValue Runtime.insertion [(NullValue (.primitive .TypeText), .scalar (.int32Value 1)),
        (OptionalValue (.scalar (.textValue (lit "NULL"))), .scalar (.int32Value 1))] =
      .ok (.dictValue (.dictType (.optionalType (.primitive .TypeText)) (.primitive .TypeInt32))
        [(NullValue (.primitive .TypeText), .scalar (.int32Value 1)),
          (OptionalValue (.scalar (.textValue (lit "NULL"))), .scalar (.int32Value 1))]) ∧
    DictValue Runtime.insertion [(OptionalValue (.scalar (.textValue (lit "NULL"))), .scalar (.int32Value 1)),
        (NullValue (.primitive .TypeText), .scalar (.int32Value 1))] =
      .ok (.dictValue (.dictType (.optionalType (.primitive .TypeText)) (.primitive .TypeInt32))
        [(OptionalValue (.scalar (.textValue (lit "NULL"))), .scalar (.int32Value 1)),
          (NullValue (.primitive .TypeText), .scalar (.int32Value 1))]) :=
  ⟨by simp [NullValue, OptionalValue], rfl, DictValue_pair_eq _ rfl rfl, DictValue_pair_eq _ rfl rfl⟩

end DictValue

end YdbSdk
