import YdbSdk.Value.Typing

/-!
# Zero Values

`ZeroValue(t)`, the conventional zero of a type, transcribed from `value.go`.
It recurses into tuple, struct and variant members and stops at optional, list
and dict types, whose zeros are a NULL and empty containers.

Two cases do not do what they look like. The switch has `case *voidType:`, but
the only void type the package builds is the value `voidType{}`, which that case
does not match, so `ZeroValue(Void())` falls through to the panic. And the zero
of every `Decimal(p, s)` is the zero of `Decimal(22, 9)`, whatever `p` and `s`.

A variant's zero is `VariantValue(ZeroValue(t.innerType), 0, t.innerType)`; the
inner zero is computed by the tuple or struct case's own body, which is what
`ZeroValue` of the inner type runs.

`ZeroValue` keeps the type where nothing above intervenes: the struct case
goes through `StructValue`, which sorts the members by name, and a decimal
member's zero is a `Decimal(22,9)`. `Ty.zeroReady` collects the conditions
under which the zero has exactly the type asked for and is well-typed.

## Main definitions

* `zeroPrimitiveValue`: The zero of a primitive type.
* `ZeroValue`: The zero of any type, or a panic.
* `Ty.uncovered`: The first type `ZeroValue` meets that its switch has no case for.
* `Ty.zeroReady`: Types whose zero is well-typed and of that type.

## Theorems

* `ZeroValue_uncovered`: `ZeroValue(t)` returns when `t` has no uncovered member, and
  otherwise panics naming the first.
* `ZeroValue_void`: `ZeroValue(Void())` panics.
* `ZeroValue_wellTyped`: For a `zeroReady` type `t`, `ZeroValue t` returns a
  well-typed value of type `t`; for any decimal type it returns the zero of
  `Decimal(22,9)`.
* `ZeroValue_struct_sorted`: The zero of a struct whose members are out of
  name order has the sorted struct type.
-/

namespace YdbSdk

open GoString

open Scalar PrimitiveType in
/-- `zeroPrimitiveValue(t)`. Its `default:` panic is for `PrimitiveType`s outside
    the spec's list, which the model does not have. -/
def zeroPrimitiveValue : PrimitiveType → Value
  | TypeBool => .scalar (boolValue false) | TypeInt8 => .scalar (int8Value 0)
  | TypeUint8 => .scalar (uint8Value 0) | TypeInt16 => .scalar (int16Value 0)
  | TypeUint16 => .scalar (uint16Value 0) | TypeInt32 => .scalar (int32Value 0)
  | TypeUint32 => .scalar (uint32Value 0) | TypeInt64 => .scalar (int64Value 0)
  | TypeUint64 => .scalar (uint64Value 0) | TypeFloat => .scalar (floatValue 0)
  | TypeDouble => .scalar (doubleValue 0) | TypeDate => .scalar (dateValue 0)
  | TypeDatetime => .scalar (datetimeValue 0) | TypeTimestamp => .scalar (timestampValue 0)
  | TypeInterval => .scalar (intervalValue 0) | TypeText => .scalar (textValue [])
  | TypeYSON => .scalar (ysonValue []) | TypeJSON => .scalar (jsonValue [])
  | TypeJSONDocument => .scalar (jsonDocumentValue []) | TypeDyNumber => .scalar (dyNumberValue [])
  | TypeTzDate => .scalar (tzDateValue []) | TypeTzDatetime => .scalar (tzDatetimeValue [])
  | TypeTzTimestamp => .scalar (tzTimestampValue []) | TypeBytes => .scalar (bytesValue [])
  | TypeUUID => UUIDValue Bytes16.zero

variable (rt : Runtime)

mutual
/-- `ZeroValue(t)`. -/
def ZeroValue : Ty → Result Value
  | .primitive t => .ok (zeroPrimitiveValue t)
  | .optionalType t => .ok (NullValue t)
  | .listType t => .ok (.listValue (.listType t) [])
  | .tupleType ts => do return .tupleValue ts (← zeroItems ts)
  | .structType fs => do return StructValue rt (← zeroFields fs)
  | .dictType k v => .ok (.dictValue (.dictType k v) [])
  | .decimalType _ _ => .ok (DecimalValue Bytes16.zero 22 9)
  | .variantTupleType ts => do
    VariantValue (.tupleValue ts (← zeroItems ts)) 0 (.tupleType ts)
  | .variantStructType fs => do
    VariantValue (StructValue rt (← zeroFields fs)) 0 (.structType fs)
  | .voidType => .error (.panic "uncovered type 'value.voidType'")
  | .emptyListType => .error (.panic "uncovered type 'value.emptyListType'")
  | .emptyDictType => .error (.panic "uncovered type 'value.emptyDictType'")
  | .nullType => .error (.panic "uncovered type 'value.nullType'")

/-- `ZeroValue` of each tuple member, in order. -/
def zeroItems : List Ty → Result (List Value)
  | [] => .ok []
  | t :: ts => do return (← ZeroValue t) :: (← zeroItems ts)

/-- `StructValueField{Name, ZeroValue(T)}` for each struct member, in order. -/
def zeroFields : List (GoString × Ty) → Result (List (GoString × Value))
  | [] => .ok []
  | (n, t) :: fs => do return (n, ← ZeroValue t) :: (← zeroFields fs)
end

mutual
/-- The `%T` of the first type `ZeroValue` meets that its switch has no case
    for, in the order it visits members: `Void`, `Null`, `EmptyList` or
    `EmptyDict`, itself or in a member the recursion reaches. -/
def Ty.uncovered : Ty → Option String
  | .voidType => some "value.voidType"
  | .emptyListType => some "value.emptyListType"
  | .emptyDictType => some "value.emptyDictType"
  | .nullType => some "value.nullType"
  | .tupleType ts | .variantTupleType ts => Ty.itemsUncovered ts
  | .structType fs | .variantStructType fs => Ty.fieldsUncovered fs
  | .primitive _ | .optionalType _ | .listType _ | .dictType _ _ | .decimalType _ _ => none

/-- The first uncovered type among tuple members, in order. -/
def Ty.itemsUncovered : List Ty → Option String
  | [] => none
  | t :: ts => t.uncovered.or (Ty.itemsUncovered ts)

/-- The first uncovered type among struct members, in order. -/
def Ty.fieldsUncovered : List (GoString × Ty) → Option String
  | [] => none
  | (_, t) :: fs => t.uncovered.or (Ty.fieldsUncovered fs)
end

/-- What `ZeroValue` does at a type with no uncovered member, and at one with. -/
def ZeroOutcome (r : Result α) : Option String → Prop
  | none => ∃ v, r = .ok v
  | some u => r = .error (.panic ("uncovered type '" ++ u ++ "'"))

/-- A step that always returns keeps the outcome of what it follows. -/
theorem ZeroOutcome.bind {x : Result α} {f : α → Result β} {o : Option String}
    (h : ZeroOutcome x o) (hf : ∀ a, ∃ b, f a = .ok b) : ZeroOutcome (x >>= f) o := by
  cases o with
  | none => obtain ⟨a, rfl⟩ := h; exact hf a
  | some u => rw [show x = _ from h]; rfl

/-- Two steps in sequence: the first's panic, or else the second's outcome. -/
theorem ZeroOutcome.bind_or {x : Result α} {f : α → Result β} {o o' : Option String}
    (h : ZeroOutcome x o) (hf : ∀ a, ZeroOutcome (f a) o') : ZeroOutcome (x >>= f) (o.or o') := by
  cases o with
  | none => obtain ⟨a, rfl⟩ := h; exact hf a
  | some u => rw [show x = _ from h]; rfl

mutual
/-- `ZeroValue(t)` returns a value when no member it recurses into is of an
    uncovered type, and otherwise panics with `uncovered type '%T'` for the
    first one it meets. `Void` is uncovered: the switch's `case *voidType:`
    tests for a pointer, and `Void()` returns the value `voidType{}`. -/
theorem ZeroValue_uncovered : ∀ t : Ty, ZeroOutcome (ZeroValue rt t) t.uncovered
  | .primitive _ | .optionalType _ | .listType _ | .dictType _ _ | .decimalType _ _ => ⟨_, rfl⟩
  | .voidType | .emptyListType | .emptyDictType | .nullType => rfl
  -- A container's outcome is its members'; the variant constructors cannot fail here.
  | .tupleType ts | .variantTupleType ts => (zeroItems_uncovered ts).bind fun _ => ⟨_, rfl⟩
  | .structType fs | .variantStructType fs => (zeroFields_uncovered fs).bind fun _ => ⟨_, rfl⟩

/-- The members' zeros, in order, up to the first that panics. -/
theorem zeroItems_uncovered : ∀ ts : List Ty, ZeroOutcome (zeroItems rt ts) (Ty.itemsUncovered ts)
  | [] => ⟨_, rfl⟩
  | t :: ts =>
    (ZeroValue_uncovered t).bind_or fun _ => (zeroItems_uncovered ts).bind fun _ => ⟨_, rfl⟩

/-- The fields' zeros, in order, up to the first that panics. -/
theorem zeroFields_uncovered :
    ∀ fs : List (GoString × Ty), ZeroOutcome (zeroFields rt fs) (Ty.fieldsUncovered fs)
  | [] => ⟨_, rfl⟩
  | (_, t) :: fs =>
    (ZeroValue_uncovered t).bind_or fun _ => (zeroFields_uncovered fs).bind fun _ => ⟨_, rfl⟩
end

/-- `ZeroValue(Void())` panics, and so does the zero of every tuple whose first
    member is `Void`. -/
theorem ZeroValue_void (ts : List Ty) :
    ZeroValue rt .voidType = .error (.panic "uncovered type 'value.voidType'") ∧
    ZeroValue rt (.tupleType (.voidType :: ts)) =
      .error (.panic "uncovered type 'value.voidType'") :=
  ⟨ZeroValue_uncovered rt .voidType, ZeroValue_uncovered rt (.tupleType (.voidType :: ts))⟩

/-- Strictly ascending member names, as `StructValue` leaves them. -/
def namesAscending (fs : List (GoString × Ty)) : Bool := decide ((fs.map Prod.fst).Sorted (· < ·))

mutual
/-- The types whose zero `ZeroValue` builds with exactly that type: every
    member it recurses into is of such a type, with no void, null, empty list
    or empty dict type, each struct's members in strictly ascending name order,
    each decimal member a `Decimal(22,9)`, and each variant of at least one
    member. Optional, list and dict types are not recursed into. -/
def Ty.zeroReady : Ty → Bool
  | .primitive _ | .optionalType _ | .listType _ | .dictType _ _ => true
  | .decimalType p s => p == 22 && s == 9
  | .tupleType ts => Ty.itemsZeroReady ts
  | .structType fs => namesAscending fs && Ty.fieldsZeroReady fs
  | .variantTupleType ts => !ts.isEmpty && Ty.itemsZeroReady ts
  | .variantStructType fs => !fs.isEmpty && namesAscending fs && Ty.fieldsZeroReady fs
  | .voidType | .emptyListType | .emptyDictType | .nullType => false

/-- Every tuple member is `zeroReady`. -/
def Ty.itemsZeroReady : List Ty → Bool
  | [] => true
  | t :: ts => t.zeroReady && Ty.itemsZeroReady ts

/-- Every struct member's type is `zeroReady`. -/
def Ty.fieldsZeroReady : List (GoString × Ty) → Bool
  | [] => true
  | (_, t) :: fs => t.zeroReady && Ty.fieldsZeroReady fs
end

open Value

/-- The zero of a tuple of `zeroReady` members. -/
theorem tupleZero_wellTyped {ts : List Ty} {vs : List Value} (ht : vs.map Value.type = ts)
    (hw : ∀ v ∈ vs, v.wellTyped) : (Value.tupleValue ts vs).wellTyped := by
  rw [wellTyped, tupleWellTyped_iff]; exact ⟨ht, hw⟩

/-- The zero of a struct of `zeroReady` members. -/
theorem structZero_wellTyped {fs : List (GoString × Ty)} {gs : List (GoString × Value)}
    (ht : gs.map (fun f => (f.1, f.2.type)) = fs) (hw : ∀ f ∈ gs, f.2.wellTyped) :
    (Value.structValue fs gs).wellTyped := by
  rw [wellTyped, fieldsWellTyped_iff]; exact ⟨ht, hw⟩

/-- The zero of a struct of `zeroReady` members in ascending name order. -/
theorem structZero_eq {fs : List (GoString × Ty)} {gs : List (GoString × Value)}
    (hn : namesAscending fs) (ht : gs.map (fun f => (f.1, f.2.type)) = fs) :
    StructValue rt gs = .structValue fs gs := by
  have hs : (gs.map Prod.fst).Sorted (· < ·) := by
    have : gs.map Prod.fst = fs.map Prod.fst := by rw [← ht, List.map_map]; rfl
    simpa [this, namesAscending] using hn
  rw [StructValue_of_sorted rt hs, ht]

mutual
/-- For a `zeroReady` type, `ZeroValue` returns a well-typed value of that type, by recursion
    on the type as `ZeroValue` itself recurses. -/
theorem ZeroValue_of_zeroReady : ∀ t : Ty, t.zeroReady →
    ∃ v, ZeroValue rt t = .ok v ∧ v.wellTyped ∧ v.type = t
  -- The zeros that do not recurse: a primitive zero, a NULL, empty containers.
  | .primitive t, _ => by cases t <;> exact ⟨_, rfl, rfl, rfl⟩
  | .optionalType t, _ => ⟨_, rfl, rfl, rfl⟩
  | .listType t, _ => ⟨_, rfl, rfl, rfl⟩
  | .dictType k v, _ => ⟨_, rfl, rfl, rfl⟩
  -- Every decimal's zero is a `Decimal(22,9)`, of the type only when it is one.
  | .decimalType p s, h => by
    simp only [Ty.zeroReady, Bool.and_eq_true, beq_iff_eq] at h
    obtain ⟨rfl, rfl⟩ := h
    exact ⟨_, rfl, rfl, rfl⟩
  -- A tuple of the members' zeros.
  | .tupleType ts, h => by
    obtain ⟨vs, hz, ht, hw⟩ := zeroItems_of_itemsZeroReady ts h
    exact ⟨.tupleValue ts vs, by simp [ZeroValue, hz], tupleZero_wellTyped ht hw, rfl⟩
  -- With ascending names, `StructValue` leaves the members' zeros in place.
  | .structType fs, h => by
    simp only [Ty.zeroReady, Bool.and_eq_true] at h
    obtain ⟨gs, hz, ht, hw⟩ := zeroFields_of_fieldsZeroReady fs h.2
    exact ⟨.structValue fs gs, by simp [ZeroValue, hz, structZero_eq rt h.1 ht],
      structZero_wellTyped ht hw, rfl⟩
  -- Index 0 is a member when there is one member at least.
  | .variantTupleType ts, h => by
    simp only [Ty.zeroReady, Bool.and_eq_true, Bool.not_eq_true', List.isEmpty_eq_false] at h
    obtain ⟨vs, hz, ht, hw⟩ := zeroItems_of_itemsZeroReady ts h.2
    refine ⟨.variantValue (.variantTupleType ts) (.tupleValue ts vs) 0,
      by simp [ZeroValue, hz, VariantValue, Variant], ?_, rfl⟩
    rw [wellTyped]
    simpa [tupleZero_wellTyped ht hw, Value.type, List.length_pos] using h.1
  -- The same, past a `StructValue` that keeps ascending names in place.
  | .variantStructType fs, h => by
    simp only [Ty.zeroReady, Bool.and_eq_true, Bool.not_eq_true', List.isEmpty_eq_false] at h
    obtain ⟨gs, hz, ht, hw⟩ := zeroFields_of_fieldsZeroReady fs h.2
    refine ⟨.variantValue (.variantStructType fs) (.structValue fs gs) 0,
      by simp [ZeroValue, hz, structZero_eq rt h.1.2 ht, VariantValue, Variant], ?_, rfl⟩
    rw [wellTyped]
    simpa [structZero_wellTyped ht hw, Value.type, List.length_pos] using h.1.1

/-- The zeros of `zeroReady` tuple members are well-typed values of the members' types. -/
theorem zeroItems_of_itemsZeroReady : ∀ ts : List Ty, Ty.itemsZeroReady ts →
    ∃ vs, zeroItems rt ts = .ok vs ∧ vs.map Value.type = ts ∧ ∀ v ∈ vs, v.wellTyped
  | [], _ => ⟨[], rfl, rfl, by simp⟩
  | t :: ts, h => by
    simp only [Ty.itemsZeroReady, Bool.and_eq_true] at h
    -- The first member's zero, then the rest's.
    obtain ⟨v, hv, hw, rfl⟩ := ZeroValue_of_zeroReady t h.1
    obtain ⟨vs, hvs, ht, hws⟩ := zeroItems_of_itemsZeroReady ts h.2
    exact ⟨v :: vs, by simp [zeroItems, hv, hvs], by simp [ht], List.forall_mem_cons.2 ⟨hw, hws⟩⟩

/-- The zeros of `zeroReady` struct members are well-typed fields of the members' names and
    types. -/
theorem zeroFields_of_fieldsZeroReady : ∀ fs : List (GoString × Ty), Ty.fieldsZeroReady fs →
    ∃ gs, zeroFields rt fs = .ok gs ∧ gs.map (fun f => (f.1, f.2.type)) = fs ∧
      ∀ f ∈ gs, f.2.wellTyped
  | [], _ => ⟨[], rfl, rfl, by simp⟩
  | (n, t) :: fs, h => by
    simp only [Ty.fieldsZeroReady, Bool.and_eq_true] at h
    -- The first member's zero, then the rest's.
    obtain ⟨v, hv, hw, rfl⟩ := ZeroValue_of_zeroReady t h.1
    obtain ⟨gs, hgs, ht, hws⟩ := zeroFields_of_fieldsZeroReady fs h.2
    exact ⟨(n, v) :: gs, by simp [zeroFields, hv, hgs], by simp [ht], List.forall_mem_cons.2 ⟨hw, hws⟩⟩
end

/-- `ZeroValue t` is a well-typed value of type `t` for every `zeroReady` type
    `t`, and the zero of `Decimal(22,9)` for every decimal type. -/
theorem ZeroValue_wellTyped :
    (∀ t : Ty, t.zeroReady → ∃ v, ZeroValue rt t = .ok v ∧ v.wellTyped ∧ v.type = t) ∧
    (∀ p s, ZeroValue rt (.decimalType p s) = .ok (DecimalValue Bytes16.zero 22 9)) :=
  ⟨ZeroValue_of_zeroReady rt, fun _ _ => rfl⟩

/-- The zero of `Tuple<Int32, Struct<a: Text>>`, and that of `Decimal(10,2)`. -/
theorem ZeroValue_wellTyped_tuple :
    (Ty.tupleType
      [.primitive .TypeInt32, .structType [(lit "a", .primitive .TypeText)]]).zeroReady ∧
    (∃ v, ZeroValue Runtime.insertion
        (.tupleType [.primitive .TypeInt32, .structType [(lit "a", .primitive .TypeText)]]) =
          .ok v ∧
      v.wellTyped ∧
      v.type = .tupleType [.primitive .TypeInt32, .structType [(lit "a", .primitive .TypeText)]]) ∧
    ZeroValue Runtime.insertion (.decimalType 10 2) = .ok (DecimalValue Bytes16.zero 22 9) :=
  ⟨rfl, (ZeroValue_wellTyped .insertion).1 _ rfl, (ZeroValue_wellTyped .insertion).2 10 2⟩

/-- The zero of `Struct<b: Int32, a: Int32>` has the type `Struct<a: Int32, b: Int32>`. -/
theorem ZeroValue_struct_sorted :
    ∃ v, ZeroValue Runtime.insertion
        (.structType [(lit "b", .primitive .TypeInt32), (lit "a", .primitive .TypeInt32)]) = .ok v ∧
      v.type = .structType [(lit "a", .primitive .TypeInt32), (lit "b", .primitive .TypeInt32)] ∧
      v.type ≠ .structType [(lit "b", .primitive .TypeInt32), (lit "a", .primitive .TypeInt32)] :=
  ⟨_, rfl, rfl, by decide⟩

end YdbSdk