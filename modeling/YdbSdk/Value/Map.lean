import YdbSdk.Value.Decode

/-!
# Dicts as Go Maps

`dictValue.Values()` copies a dict's pairs into a `map[Value]Value`, one
assignment `values[vv.K] = vv.V` per pair. The map's key type is the interface
`Value`, so each assignment hashes the key by its dynamic type. The runtime
compares keys of a value type by value, and keys of a pointer type by address.
The two slice types among the values, `bytesValue` and `ysonValue`, have no
`==` at all: hashing one panics, and a dict with a `Bytes` (YDB's `String`) or
`YSON` key has no `Values()`.

`MapKey` is a key as the runtime sees it. Every key of a pointer type is its own
allocation, and `Value.mapKey` places it at the position of its pair. A decoded
dict allocates each key afresh, so this is exact there. A `*doubleValue` passed
twice to `DictValue` would be one key in Go and two in the model, but it would
be one key stored twice.

The loop is split in two (`valuesFrom_eq`): hash every key in order, stopping at
the first panic, then assign every entry. Assigning keys that are new appends
them (`GoMap.assignAll_entries`), and keys hashed at different positions are
equal only for equal values (`Value.mapKey_inj`). So for pairwise distinct
hashable keys the map has one entry per pair, and each key finds its payload.

## Main definitions

* `MapKey`, `Value.mapKey`: A key as the runtime hashes and compares it.
* `GoMap`, `GoMap.assign`: A `map[Value]Value`, with one entry per key.
* `dictValue.Values`: `v.Values()` of a `*dictValue`.

## Theorems

* `valuesFrom_eq`: The loop hashes every key, then assigns every entry.
* `dictValue_Values_bytes_key`: A `Dict<String, Int32>` has no `Values()`.
* `Values_total`: Distinct hashable keys give one entry per pair, each key
  mapped to its payload.
* `Values_unhashable`: The first `Bytes` or `YSON` key panics.
-/

namespace YdbSdk

/-- A key of a `map[Value]Value` as the runtime compares it: a value type by
    its dynamic type and value, `voidValue{}` as the one value of its type, and
    a pointer by its address. -/
inductive MapKey where
  | comparable (s : Scalar)
  | void
  | pointer (address : Nat)
  deriving DecidableEq

/-- The runtime's panic on hashing a key whose type has no `==`. -/
def unhashablePanic (goType : String) : Fault :=
  .panic s!"runtime error: hash of unhashable type {goType}"

/-- The key a scalar at `address` makes, or the panic of hashing it.
    `*doubleValue`, `*floatValue` and `*uuidValue` are pointers. -/
def Scalar.mapKey (address : Nat) : Scalar → Result MapKey
  | .bytesValue _ => .error (unhashablePanic "value.bytesValue")
  | .ysonValue _ => .error (unhashablePanic "value.ysonValue")
  | .doubleValue _ | .floatValue _ | .uuidValue _ => .ok (.pointer address)
  | s => .ok (.comparable s)

namespace Value

/-- The key `v` at `address` makes in a `map[Value]Value`. Every value that is
    not a scalar or `voidValue` is a pointer. -/
def mapKey (address : Nat) : Value → Result MapKey
  | scalar s => s.mapKey address
  | voidValue => .ok .void
  | _ => .ok (.pointer address)

/-- Whether `v`'s dynamic type has `==`: all but the two slice types. -/
def isHashable : Value → Bool
  | scalar (.bytesValue _) | scalar (.ysonValue _) => false
  | _ => true

/-- A hashable value becomes a map key without a panic. -/
theorem mapKey_ok_of_isHashable {v : Value} (h : v.isHashable) (i : Nat) :
    ∃ k, v.mapKey i = .ok k := by
  cases v
  -- Only a scalar of an unhashable kind panics; the rest hash.
  case scalar s => cases s <;> first | exact ⟨_, rfl⟩ | cases h
  all_goals exact ⟨_, rfl⟩

/-- What a key can be: the address it was given, a scalar by value, or Void. -/
theorem mapKey_eq_ok {v : Value} {i : Nat} {k : MapKey} (h : v.mapKey i = .ok k) :
    k = .pointer i ∨ (∃ s, v = .scalar s ∧ k = .comparable s) ∨
      (v = .voidValue ∧ k = .void) := by
  cases v
  case scalar s =>
    -- A comparable scalar is its own key; a pointer kind is keyed by its address.
    cases s <;> cases h <;> first | exact .inl rfl | exact .inr (.inl ⟨_, rfl, rfl⟩)
  case voidValue => cases h; exact .inr (.inr ⟨rfl, rfl⟩)
  all_goals cases h; exact .inl rfl

/-- Keys hashed at two positions are equal only for equal values. -/
theorem mapKey_inj {v w : Value} {i j : Nat} {k : MapKey} (hv : v.mapKey i = .ok k)
    (hw : w.mapKey j = .ok k) (hij : i ≠ j) : v = w := by
  rcases mapKey_eq_ok hv with rfl | ⟨s, rfl, rfl⟩ | ⟨rfl, rfl⟩ <;>
    rcases mapKey_eq_ok hw with h | ⟨s', rfl, h⟩ | ⟨rfl, h⟩
  -- Two pointers at distinct positions differ; a scalar or Void key is its value.
  all_goals first | rfl | exact absurd (MapKey.pointer.inj h) hij | (cases h; rfl) | cases h

end Value

/-- A `map[Value]Value`: its entries, one per key, in the order their keys were
    first assigned. Go leaves the iteration order unspecified; this one is the
    model's. -/
structure GoMap where
  entries : List (MapKey × Value)
  nodup : (entries.map Prod.fst).Nodup

namespace GoMap

/-- `m[k] = v` on a map's entries: the entry of key `k` takes `v`, or a new
    entry comes last. -/
def assignEntries : List (MapKey × Value) → MapKey → Value → List (MapKey × Value)
  | [], k, v => [(k, v)]
  | (k', v') :: es, k, v => if k' = k then (k, v) :: es else (k', v') :: assignEntries es k v

variable {es : List (MapKey × Value)} {k : MapKey} {v : Value}

/-- Assigning a key the map does not hold appends an entry. -/
theorem assignEntries_of_not_mem (hk : k ∉ es.map Prod.fst) :
    assignEntries es k v = es ++ [(k, v)] := by
  induction es with
  | nil => rfl
  | cons e es ih =>
    simp only [List.map_cons, List.mem_cons, not_or] at hk
    simp [assignEntries, Ne.symm hk.1, ih hk.2]

/-- Assigning a key the map holds leaves its keys as they were. -/
theorem map_fst_assignEntries_of_mem (hk : k ∈ es.map Prod.fst) :
    (assignEntries es k v).map Prod.fst = es.map Prod.fst := by
  induction es with
  | nil => cases hk
  | cons e es ih =>
    by_cases he : e.1 = k
    -- The key is the first entry's, replaced in place.
    · simp [assignEntries, he]
    · simp only [List.map_cons, List.mem_cons, Ne.symm he, false_or] at hk
      simp [assignEntries, he, ih hk]

/-- An assignment keeps the keys pairwise distinct. -/
theorem nodup_assignEntries (h : (es.map Prod.fst).Nodup) (k : MapKey) (v : Value) :
    ((assignEntries es k v).map Prod.fst).Nodup := by
  by_cases hk : k ∈ es.map Prod.fst
  -- A key already held is overwritten in place.
  · rwa [map_fst_assignEntries_of_mem hk]
  -- A new key is appended after keys it differs from.
  · rw [assignEntries_of_not_mem hk, List.map_append, List.map_singleton,
      ← List.concat_eq_append]
    exact h.concat hk

/-- A key finds the entry it is stored in. -/
theorem lookup_eq_of_mem (hd : (es.map Prod.fst).Nodup) (h : (k, v) ∈ es) :
    es.lookup k = some v := by
  induction es with
  | nil => cases h
  | cons e es ih =>
    obtain ⟨k', v'⟩ := e
    rw [List.map_cons, List.nodup_cons] at hd
    rcases List.mem_cons.mp h with h | h
    · cases h
      -- The entry is the first, found at once.
      exact List.lookup_cons_self
    -- A later entry: its key is not the first's, which the lookup passes.
    · have hne : k ≠ k' := fun he => hd.1 (he ▸ List.mem_map.mpr ⟨_, h, rfl⟩)
      rw [List.lookup_cons, beq_false_of_ne hne]
      exact ih hd.2 h

/-- `make(map[Value]Value, n)`; the size hint does not show. -/
def empty : GoMap := ⟨[], List.nodup_nil⟩

/-- `m[k] = v`. -/
def assign (m : GoMap) (k : MapKey) (v : Value) : GoMap :=
  ⟨assignEntries m.entries k v, nodup_assignEntries m.nodup k v⟩

/-- `m[k]`, with `none` for a missing key. -/
def get (m : GoMap) (k : MapKey) : Option Value := m.entries.lookup k

/-- `len(m)`. -/
def len (m : GoMap) : Nat := m.entries.length

/-- The assignments of `es`, in order. -/
def assignAll (m : GoMap) (es : List (MapKey × Value)) : GoMap :=
  es.foldl (fun m e => m.assign e.1 e.2) m

/-- In a map of distinct keys, a key finds the value stored with it. -/
theorem get_of_mem {m : GoMap} {k : MapKey} {v : Value} (h : (k, v) ∈ m.entries) :
    m.get k = some v :=
  lookup_eq_of_mem m.nodup h

/-- Assigning distinct keys the map does not hold appends them, in order. -/
theorem assignAll_entries (m : GoMap) {es : List (MapKey × Value)} (hd : (es.map Prod.fst).Nodup)
    (hf : ∀ e ∈ es, e.1 ∉ m.entries.map Prod.fst) :
    (m.assignAll es).entries = m.entries ++ es := by
  induction es generalizing m with
  | nil => simp [assignAll]
  | cons e es ih =>
    rw [List.map_cons, List.nodup_cons] at hd
    -- The first key is new, so it is appended; the rest stay new after it.
    have hstep : (m.assign e.1 e.2).entries = m.entries ++ [e] :=
      assignEntries_of_not_mem (hf e (List.mem_cons_self _ _))
    have hf' : ∀ x ∈ es, x.1 ∉ (m.assign e.1 e.2).entries.map Prod.fst := by
      intro x hx hmem
      rw [hstep, List.map_append, List.mem_append] at hmem
      rcases hmem with hmem | hmem
      · exact hf x (List.mem_cons_of_mem _ hx) hmem
      · exact hd.1 (List.mem_singleton.mp hmem ▸ List.mem_map_of_mem Prod.fst hx)
    show ((m.assign e.1 e.2).assignAll es).entries = _
    rw [ih _ hd.2 hf', hstep, List.append_assoc, List.singleton_append]

end GoMap

namespace dictValue

/-- The loop of `v.Values()` from the pair at position `i` on: hash the key,
    then assign. -/
def valuesFrom : Nat → GoMap → List (Value × Value) → Result GoMap
  | _, m, [] => .ok m
  | i, m, (k, v) :: ps => do valuesFrom (i + 1) (m.assign (← k.mapKey i) v) ps

/-- `v.Values()` of a `*dictValue` holding `values`. -/
def Values (values : List (Value × Value)) : Result GoMap := valuesFrom 0 .empty values

/-- The keys of the pairs from position `i` on, hashed in order: the first
    panic, or all of them. -/
def mapKeysFrom : Nat → List (Value × Value) → Result (List MapKey)
  | _, [] => .ok []
  | i, (k, _) :: ps => do return (← k.mapKey i) :: (← mapKeysFrom (i + 1) ps)

/-- The loop hashes every key, then assigns every entry. -/
theorem valuesFrom_eq (i : Nat) (m : GoMap) (ps : List (Value × Value)) :
    valuesFrom i m ps = do
      let ks ← mapKeysFrom i ps
      return m.assignAll (ks.zip (ps.map Prod.snd)) := by
  induction ps generalizing i m with
  | nil => rfl
  | cons p ps ih =>
    obtain ⟨k, v⟩ := p
    cases hk : k.mapKey i with
    -- A key that panics stops both the loop and the hashing.
    | error e => simp [valuesFrom, mapKeysFrom, hk]
    -- A key that hashes is assigned, and the loop goes on from the next position.
    | ok key =>
      simp only [valuesFrom, mapKeysFrom, hk, Result.ok_bind, ih]
      cases mapKeysFrom (i + 1) ps <;> rfl

/-- Keys that are all hashable become map keys without a panic. -/
theorem mapKeysFrom_ok {ps : List (Value × Value)} (hh : ∀ p ∈ ps, p.1.isHashable) (i : Nat) :
    ∃ ks, mapKeysFrom i ps = .ok ks := by
  induction ps generalizing i with
  | nil => exact ⟨_, rfl⟩
  | cons p ps ih =>
    obtain ⟨k, hk⟩ := Value.mapKey_ok_of_isHashable (hh p (List.mem_cons_self _ _)) i
    obtain ⟨ks, hks⟩ := ih (fun q hq => hh q (List.mem_cons_of_mem _ hq)) (i + 1)
    exact ⟨k :: ks, by simp [mapKeysFrom, hk, hks]⟩

/-- The `j`-th key hashed is the key of the pair at position `i + j`. -/
theorem mapKeysFrom_getElem? {i : Nat} {ps : List (Value × Value)} {ks : List MapKey}
    (h : mapKeysFrom i ps = .ok ks) :
    ks.length = ps.length ∧
      ∀ j (hj : j < ps.length), ∃ k, ks[j]? = some k ∧ ps[j].1.mapKey (i + j) = .ok k := by
  induction ps generalizing i ks with
  | nil => cases h; exact ⟨rfl, fun _ hj => absurd hj (Nat.not_lt_zero _)⟩
  | cons p ps ih =>
    obtain ⟨k, hk, h⟩ := Result.bind_eq_ok.mp h
    obtain ⟨rest, hrest, h⟩ := Result.bind_eq_ok.mp h
    cases h
    obtain ⟨hlen, hat⟩ := ih hrest
    refine ⟨by simp [hlen], fun j hj => ?_⟩
    cases j with
    -- The first key is hashed at position `i`, the rest from `i + 1`.
    | zero => exact ⟨k, List.getElem?_cons_zero, hk⟩
    | succ j =>
      obtain ⟨k', hk', hmk⟩ := hat j (Nat.lt_of_succ_lt_succ hj)
      refine ⟨k', by rw [List.getElem?_cons_succ, hk'], ?_⟩
      rw [List.getElem_cons_succ, ← Nat.add_assoc, Nat.add_right_comm]
      exact hmk

/-- Pairwise distinct keys hash to pairwise distinct map keys. -/
theorem mapKeysFrom_nodup {i : Nat} {ps : List (Value × Value)} {ks : List MapKey}
    (h : mapKeysFrom i ps = .ok ks) (hd : (ps.map Prod.fst).Nodup) : ks.Nodup := by
  obtain ⟨hlen, hat⟩ := mapKeysFrom_getElem? h
  rw [List.nodup_iff_getElem?_ne_getElem?] at hd ⊢
  intro a b hab hb heq
  obtain ⟨ka, hka, hma⟩ := hat a (by omega)
  obtain ⟨kb, hkb, hmb⟩ := hat b (by omega)
  rw [hka, hkb, Option.some.injEq] at heq
  subst heq
  apply hd a b hab (by simpa [hlen] using hb)
  simp only [List.getElem?_map, List.getElem?_eq_getElem (show a < ps.length by omega),
    List.getElem?_eq_getElem (show b < ps.length by omega), Option.map_some']
  -- Two hashed keys that are equal come from equal values.
  rw [Value.mapKey_inj hma hmb (by omega)]

/-- Hashing stops at the first key without `==`, with its panic. -/
theorem mapKeysFrom_append_error {pre : List (Value × Value)}
    (hpre : ∀ p ∈ pre, p.1.isHashable)
    (k : Value) {e : Fault} (v : Value) (post : List (Value × Value)) (i : Nat)
    (hk : k.mapKey (i + pre.length) = .error e) :
    mapKeysFrom i (pre ++ (k, v) :: post) = .error e := by
  induction pre generalizing i with
  | nil =>
    rw [List.length_nil, Nat.add_zero] at hk
    simp [mapKeysFrom, hk]
  | cons p pre ih =>
    -- A hashable key before it hashes, and the panic comes later.
    obtain ⟨kp, hkp⟩ := Value.mapKey_ok_of_isHashable (hpre p (List.mem_cons_self _ _)) i
    have hrest := ih (fun q hq => hpre q (List.mem_cons_of_mem _ hq)) (i + 1)
      (by rw [← hk, List.length_cons, Nat.add_assoc, Nat.add_comm 1])
    simp [mapKeysFrom, hkp, hrest]

end dictValue

open dictValue

variable (rt : Runtime)

/-- `DictValue` and `FromYDB` both build a `Dict<String, Int32>` with one pair,
    and its `Values()` panics hashing the `bytesValue` key. -/
theorem dictValue_Values_bytes_key :
    DictValue rt [(.scalar (.bytesValue [97]), .scalar (.int32Value 1))] =
        .ok (.dictValue (.dictType (.primitive .TypeBytes) (.primitive .TypeInt32))
          [(.scalar (.bytesValue [97]), .scalar (.int32Value 1))]) ∧
      FromYDB rt (.dictType (.typeId .STRING) (.typeId .INT32))
          { Ydb.Value.leaf .none with
            pairs := [(.leaf (.bytesValue [97]), .leaf (.int32Value 1))] } =
        .ok (.dictValue (.dictType (.primitive .TypeBytes) (.primitive .TypeInt32))
          [(.scalar (.bytesValue [97]), .scalar (.int32Value 1))]) ∧
      dictValue.Values [(.scalar (.bytesValue [97]), .scalar (.int32Value 1))] =
        .error (.panic "runtime error: hash of unhashable type value.bytesValue") :=
  ⟨rfl, rfl, rfl⟩

/-- For pairwise distinct keys of hashable types, `Values()` returns a map with
    one entry per pair, in which the key of each pair finds that pair's payload. -/
theorem Values_total {values : List (Value × Value)} (hh : ∀ p ∈ values, p.1.isHashable)
    (hd : (values.map Prod.fst).Nodup) :
    ∃ m, dictValue.Values values = .ok m ∧ m.len = values.length ∧
      ∀ i (h : i < values.length), ∃ k, values[i].1.mapKey i = .ok k ∧
        m.get k = some values[i].2 := by
  -- Every key hashes; the hashed keys are distinct, so the assignments only append.
  obtain ⟨ks, hks⟩ := mapKeysFrom_ok hh 0
  obtain ⟨hlen, hat⟩ := mapKeysFrom_getElem? hks
  have hentries : (GoMap.empty.assignAll (ks.zip (values.map Prod.snd))).entries =
      ks.zip (values.map Prod.snd) :=
    GoMap.assignAll_entries _
      (by rw [List.map_fst_zip _ _ (by simp [hlen])]; exact mapKeysFrom_nodup hks hd)
      (fun _ _ => List.not_mem_nil _)
  refine ⟨_, by rw [dictValue.Values, valuesFrom_eq, hks]; rfl,
    by simp [GoMap.len, hentries, hlen], ?_⟩
  -- The `i`-th pair's key finds the `i`-th entry.
  intro i hi
  obtain ⟨k, hk, hmk⟩ := hat i hi
  refine ⟨k, by simpa using hmk, GoMap.get_of_mem ?_⟩
  rw [hentries, List.mem_iff_getElem?]
  exact ⟨i, List.getElem?_zip_eq_some.mpr ⟨hk, by simp [hi]⟩⟩

/-- Two `Int32` keys: `Values()` holds both, each with its payload. -/
theorem Values_total_int32 :
    ∃ m, dictValue.Values [(.scalar (.int32Value 1), .scalar (.int32Value 10)),
        (.scalar (.int32Value 2), .scalar (.int32Value 20))] = .ok m ∧ m.len = 2 ∧
      ∀ i (h : i < 2), ∃ k, ([(Value.scalar (.int32Value 1), Value.scalar (.int32Value 10)),
        (.scalar (.int32Value 2), .scalar (.int32Value 20))][i]).1.mapKey i = .ok k ∧
        m.get k = some ([(Value.scalar (.int32Value 1), Value.scalar (.int32Value 10)),
          (.scalar (.int32Value 2), .scalar (.int32Value 20))][i]).2 :=
  Values_total (by decide) (by simp)

/-- A `Bytes` or `YSON` key makes `Values()` panic, naming its type, as soon as
    the loop reaches it. -/
theorem Values_unhashable {pre : List (Value × Value)} (hpre : ∀ p ∈ pre, p.1.isHashable)
    (b : List UInt8) (v : Value) (post : List (Value × Value)) :
    dictValue.Values (pre ++ (.scalar (.bytesValue b), v) :: post) =
        .error (unhashablePanic "value.bytesValue") ∧
      dictValue.Values (pre ++ (.scalar (.ysonValue b), v) :: post) =
        .error (unhashablePanic "value.ysonValue") := by
  simp only [dictValue.Values, valuesFrom_eq,
    mapKeysFrom_append_error hpre (.scalar (.bytesValue b)) v post 0 rfl,
    mapKeysFrom_append_error hpre (.scalar (.ysonValue b)) v post 0 rfl,
    Result.error_bind, and_self]

/-- An `Int32` key, then a `Bytes` or `YSON` one: `Values()` panics at the second. -/
theorem Values_unhashable_after_int32 :
    dictValue.Values ([(.scalar (.int32Value 1), .scalar (.int32Value 1))] ++
        (.scalar (.bytesValue [97]), .scalar (.int32Value 2)) :: []) =
        .error (unhashablePanic "value.bytesValue") ∧
      dictValue.Values ([(.scalar (.int32Value 1), .scalar (.int32Value 1))] ++
        (.scalar (.ysonValue [97]), .scalar (.int32Value 2)) :: []) =
        .error (unhashablePanic "value.ysonValue") :=
  Values_unhashable (by decide) [97] (.scalar (.int32Value 2)) []

end YdbSdk
