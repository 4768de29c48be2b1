import Mathlib.Data.List.Lex
import Mathlib.Data.List.Sort
import Mathlib.Algebra.Group.Nat.Basic
import Mathlib.Algebra.Group.Int

/-!
# The Go Runtime Under the Value Package

What the package takes from Go itself: strings, the two ways a call can fail,
the integer formatting of `strconv`, the byte order of `encoding/binary`, and
the library functions whose code this model does not reproduce.

A Go `string` is a byte sequence and `<` on strings compares bytes, so
`GoString` is `List UInt8` with `List.Lex`, which is exactly that order. Text
that the package renders (numbers, `"NULL"`, `"VOID"`) is ASCII, and `lit`
writes such a literal down as its bytes.

A call either returns, returns a non-nil `error`, or panics. The distinction
matters: `FromYDB` turns every error it gets back into a panic, so a caller can
handle a failure only where no panic is reachable. `Result` keeps the two
apart.

Some library calls are not modelled: `sort.Slice`, the float formatting and
conversions of `fmt` and `strconv`, `%q` quoting and `time.Time.Format`. The
model takes them as a `Runtime` parameter, a structure whose fields are the
functions together with what the proofs need of them. For `sort.Slice` that
is the contract of any comparison sort (a permutation with no inversion) plus
one fact about Go's algorithm: in a slice of two elements, elements that
compare equal keep their order, since slices that short are sorted by
insertion.

## Main definitions

* `GoString`: A Go `string`, with Go's byte order.
* `Fault`, `Result`: A returned `error` or a panic, and a call's outcome.
* `FormatUint`, `FormatInt`: `strconv.FormatUint` and `strconv.FormatInt` in base 10.
* `Uint64`, `PutUint64`: `binary.BigEndian` reads and writes of eight bytes.
* `Bytes16`, `BigEndianUint128`: A Go `[16]byte` and the package's 128-bit join.
* `GoTime`: A `time.Time` in UTC.
* `Runtime`: The library functions taken as parameters, with their contracts.

## Theorems

* `Uint64_PutUint64`: Reading back eight written bytes gives the number.
* `PutUint64_Uint64`: Writing back a read number gives the eight bytes.
* `BigEndianUint128_split`: Joining the two halves read from 16 bytes gives them back.
* `BigEndianUint128_inverse`: The 128-bit split and join are inverse, both ways round.
* `Runtime.sortSlice_eq_of_perm`: Sorting by pairwise distinct keys forgets the
  input order.
-/

namespace YdbSdk

instance isStrictTotalOrderUInt8 : IsStrictTotalOrder UInt8 (· < ·) where
  trichotomous a b := by
    rcases Nat.lt_trichotomy a.toBitVec.toNat b.toBitVec.toNat with h | h | h
    · exact .inl h
    · exact .inr (.inl (UInt8.eq_of_toBitVec_eq (BitVec.eq_of_toNat_eq h)))
    · exact .inr (.inr h)
  irrefl a := UInt8.lt_irrefl a
  trans _ _ _ := UInt8.lt_trans

/-- A Go `string`: a sequence of bytes. Go orders strings bytewise, which is
    `List.Lex` on the bytes. -/
abbrev GoString := List UInt8

instance isStrictTotalOrderGoString : IsStrictTotalOrder GoString (· < ·) :=
  inferInstanceAs (IsStrictTotalOrder (List UInt8) (List.Lex (· < ·)))

instance decidableLtGoString : DecidableRel (α := GoString) (· < ·) := List.Lex.decidableRel _

namespace GoString

/-- An ASCII literal of the source, as its bytes. -/
def lit (s : String) : GoString := s.toList.map fun c => c.toNat.toUInt8

/-- Comma-separated concatenation, as the `toString` loops write it. -/
def joinComma : List GoString → GoString
  | [] => []
  | [s] => s
  | s :: rest => s ++ lit "," ++ joinComma rest

end GoString

/-- How a Go call ends when it does not return a value: a returned non-nil
    `error`, or a run-time panic, which unwinds every caller. -/
inductive Fault where
  | error (msg : String)
  | panic (msg : String)
  deriving DecidableEq, Repr

/-- The outcome of a Go call. -/
abbrev Result (α : Type) := Except Fault α

/-- What `FromYDB` does with `fromYDB`'s outcome: a returned error is re-raised
    as a panic. -/
def Result.orPanic {α : Type} : Result α → Result α
  | .error (.error msg) => .error (.panic msg)
  | r => r

/-- `FromYDB` passes a returned value on unchanged. -/
@[simp] theorem Result.orPanic_ok {α : Type} (a : α) : Result.orPanic (.ok a : Result α) = .ok a :=
  rfl

/-- A step after a returned value runs on that value. -/
@[simp] theorem Result.ok_bind {α β : Type} (a : α) (f : α → Result β) :
    (Except.ok a >>= f : Result β) = f a := rfl

/-- A failure skips every later step. -/
@[simp] theorem Result.error_bind {α β : Type} (e : Fault) (f : α → Result β) :
    (Except.error e >>= f : Result β) = .error e := rfl

/-- `return a` returns `a`. -/
theorem Result.pure_eq {α : Type} (a : α) : (pure a : Result α) = .ok a := rfl

/-- A sequence returns something exactly when its first call returns something
    from which the rest returns something. -/
theorem Result.exists_bind_eq_ok {α β : Type} {x : Result α} {f : α → Result β} :
    (∃ b, x >>= f = .ok b) ↔ ∃ a, x = .ok a ∧ ∃ b, f a = .ok b := by
  cases x <;> simp

/-- A sequence returns exactly when its first call returns and the rest does. -/
theorem Result.bind_eq_ok {α β : Type} {x : Result α} {f : α → Result β} {b : β} :
    x >>= f = .ok b ↔ ∃ a, x = .ok a ∧ f a = .ok b := by
  cases x <;> simp

/-- A loop of calls that returns has each call return its element. -/
theorem Result.mapM_ok_forall₂ {α β : Type} {f : α → Result β} :
    ∀ {xs : List α} {ys : List β}, xs.mapM f = .ok ys → List.Forall₂ (fun x y => f x = .ok y) xs ys
  | [], _, h => by cases h; exact .nil
  | x :: xs, ys, h => by
    rw [List.mapM_cons] at h
    -- The first call returned, and so did the rest of the loop.
    cases hx : f x with
    | error e => rw [hx] at h; cases h
    | ok y =>
      cases hxs : xs.mapM f with
      | error e => rw [hx, hxs] at h; cases h
      | ok ys' =>
        rw [hx, hxs] at h; cases h
        exact .cons hx (Result.mapM_ok_forall₂ hxs)

/-- Two maps agree when their lists are related pointwise by the agreement. -/
theorem map_eq_of_forall₂ {α β γ : Type} {f : α → γ} {g : β → γ} :
    ∀ {xs : List α} {ys : List β}, List.Forall₂ (fun x y => g y = f x) xs ys → ys.map g = xs.map f
  | _, _, .nil => rfl
  | _, _, .cons h hs => by rw [List.map_cons, List.map_cons, h, map_eq_of_forall₂ hs]

/-- A loop of calls that each return runs to the end. -/
theorem Result.mapM_ok_of_forall {α β : Type} {f : α → Result β} {P : α → β → Prop} :
    ∀ {xs : List α}, (∀ x ∈ xs, ∃ y, f x = .ok y ∧ P x y) →
      ∃ ys, xs.mapM f = .ok ys ∧ List.Forall₂ P xs ys
  | [], _ => ⟨[], rfl, .nil⟩
  | x :: xs, h => by
    obtain ⟨y, hy, hp⟩ := h x (.head _)
    obtain ⟨ys, hys, hps⟩ := Result.mapM_ok_of_forall fun z hz => h z (.tail _ hz)
    exact ⟨y :: ys, by rw [List.mapM_cons, hy, hys]; rfl, .cons hp hps⟩

/-- A loop that undoes `g` on every element of a mapped list returns the list. -/
theorem Result.mapM_map_eq_ok {α β : Type} {f : β → Result α} {g : α → β} :
    ∀ {xs : List α}, (∀ x ∈ xs, f (g x) = .ok x) → (xs.map g).mapM f = .ok xs
  | [], _ => rfl
  | x :: xs, h => by
    rw [List.map_cons, List.mapM_cons, h x (.head _), Result.mapM_map_eq_ok fun y hy => h y (.tail _ hy)]
    rfl

/-- A loop of calls that all return runs to the end. -/
theorem Result.mapM_eq_ok {α β : Type} {f : α → Result β} (g : α → β) :
    ∀ {xs : List α}, (∀ x ∈ xs, f x = .ok (g x)) → xs.mapM f = .ok (xs.map g)
  | [], _ => rfl
  | x :: xs, h => by
    rw [List.mapM_cons, h x (.head _), Result.mapM_eq_ok g fun y hy => h y (.tail _ hy)]; rfl

/-- `strconv.FormatUint(n, 10)`. -/
def FormatUint (n : Nat) : GoString := GoString.lit (String.mk (Nat.toDigits 10 n))

/-- `strconv.FormatInt(i, 10)`: a negative number gets a leading `-`. -/
def FormatInt : Int → GoString
  | .ofNat n => FormatUint n
  | .negSucc n => GoString.lit "-" ++ FormatUint (n + 1)

/-- `binary.BigEndian.Uint64(b)`: eight bytes as a number, `b[0]` most
    significant. The code ORs `uint64(b[i]) << (56 - 8 * i)`; the shifted bytes
    do not overlap, so the OR is this sum. -/
def Uint64 (b : List UInt8) : BitVec 64 :=
  BitVec.ofNat 64 (b.foldl (fun acc x => acc * 256 + x.toNat) 0)

/-- `binary.BigEndian.PutUint64(b, v)`: `b[i] = byte(v >> (56 - 8 * i))`. -/
def PutUint64 (v : BitVec 64) : List UInt8 :=
  [56, 48, 40, 32, 24, 16, 8, 0].map fun s => UInt8.ofNat (v.toNat >>> s)

/-- `PutUint64` writes eight bytes. -/
@[simp] theorem length_PutUint64 (v : BitVec 64) : (PutUint64 v).length = 8 := rfl

/-- A Go `[16]byte`, used for UUIDs and the 128-bit decimal payload. -/
structure Bytes16 where
  bytes : List UInt8
  length_eq : bytes.length = 16
  deriving DecidableEq

namespace Bytes16

/-- The zero value `[16]byte{}`. -/
def zero : Bytes16 := ⟨List.replicate 16 0, rfl⟩

/-- `binary.BigEndian.Uint64(b[0:8])`. -/
def hi (b : Bytes16) : BitVec 64 := Uint64 (b.bytes.take 8)

/-- `binary.BigEndian.Uint64(b[8:16])`. -/
def lo (b : Bytes16) : BitVec 64 := Uint64 (b.bytes.drop 8)

end Bytes16

/-- `BigEndianUint128(hi, lo)`: the two halves written big-endian, high first. -/
def BigEndianUint128 (hi lo : BitVec 64) : Bytes16 :=
  ⟨PutUint64 hi ++ PutUint64 lo, rfl⟩

/-- A byte made from a number keeps its low eight bits. -/
theorem UInt8.toNat_ofNat_eq (n : Nat) : (UInt8.ofNat n).toNat = n % 256 :=
  BitVec.toNat_ofNat ..

/-- One base-256 digit: the number above bit `s` is the number above bit `s + 8`
    shifted in front of the byte at bit `s`. -/
theorem div_pow_digit (v s t : Nat) (h : t = s + 8) :
    v / 2 ^ t * 256 + v / 2 ^ s % 256 = v / 2 ^ s := by
  subst h
  rw [Nat.pow_add, ← Nat.div_div_eq_div_mul]
  exact Nat.div_add_mod' (v / 2 ^ s) 256

/-- Eight bytes written by `PutUint64` read back by `Uint64` as the number written. -/
theorem Uint64_PutUint64 (v : BitVec 64) : Uint64 (PutUint64 v) = v := by
  apply BitVec.eq_of_toNat_eq
  have h := v.isLt
  -- The top byte is the number above bit 56, since nothing is above bit 64.
  have h56 : v.toNat / 2 ^ 56 % 256 = v.toNat / 2 ^ 64 * 256 + v.toNat / 2 ^ 56 % 256 := by
    rw [Nat.div_eq_of_lt h]; simp
  simp only [Uint64, PutUint64, List.map, List.foldl, Nat.shiftRight_eq_div_pow,
    BitVec.toNat_ofNat, UInt8.toNat_ofNat_eq, Nat.zero_mul, Nat.zero_add]
  rw [h56]
  simp (disch := decide) only [div_pow_digit]
  simp [Nat.mod_eq_of_lt h]

/-- Above the low byte of `a * 256 + d` is `a`. -/
theorem horner_div (a d s : Nat) (hd : d < 256) : (a * 256 + d) / 2 ^ (s + 8) = a / 2 ^ s := by
  rw [Nat.pow_add, Nat.mul_comm (2 ^ s), ← Nat.div_div_eq_div_mul, show (a * 256 + d) / 2 ^ 8 = a by omega]

/-- The low byte of `a * 256 + d` is `d`. -/
theorem horner_mod (a d : Nat) (hd : d < 256) : (a * 256 + d) / 2 ^ 0 % 256 = d := by
  rw [Nat.pow_zero, Nat.div_one]
  omega

/-- Eight bytes read by `Uint64` are written back by `PutUint64` as they were. -/
theorem PutUint64_Uint64 : ∀ (b : List UInt8), b.length = 8 → PutUint64 (Uint64 b) = b
  | [b0, b1, b2, b3, b4, b5, b6, b7], _ => by
    have := b0.toNat_lt_size; have := b1.toNat_lt_size; have := b2.toNat_lt_size
    have := b3.toNat_lt_size; have := b4.toNat_lt_size; have := b5.toNat_lt_size
    have := b6.toNat_lt_size; have := b7.toNat_lt_size
    simp only [UInt8.size] at *
    simp only [Uint64, PutUint64, List.map, List.foldl, Nat.shiftRight_eq_div_pow,
      BitVec.toNat_ofNat, List.cons.injEq, and_true]
    rw [Nat.mod_eq_of_lt (by omega)]
    -- Each byte is one base-256 digit of the assembled number, peeled off from the bottom.
    refine ⟨?_, ?_, ?_, ?_, ?_, ?_, ?_, ?_⟩ <;> apply UInt8.toNat.inj <;>
      simp (disch := assumption) only [UInt8.toNat_ofNat_eq, horner_div, horner_mod]

/-- Joining the two big-endian halves read from a `[16]byte` gives it back. -/
theorem BigEndianUint128_split (b : Bytes16) : BigEndianUint128 b.hi b.lo = b := by
  have h := b.length_eq
  obtain ⟨bytes, hb⟩ := b
  simp only [BigEndianUint128, Bytes16.hi, Bytes16.lo, Bytes16.mk.injEq]
  rw [PutUint64_Uint64 _ (by simp [hb]), PutUint64_Uint64 _ (by simp [hb]), List.take_append_drop]

/-- The first eight bytes of `BigEndianUint128 hi lo` read back as `hi`. -/
@[simp] theorem Bytes16.hi_BigEndianUint128 (hi lo : BitVec 64) : (BigEndianUint128 hi lo).hi = hi := by
  simp [Bytes16.hi, BigEndianUint128, List.take_left', Uint64_PutUint64]

/-- The last eight bytes of `BigEndianUint128 hi lo` read back as `lo`. -/
@[simp] theorem Bytes16.lo_BigEndianUint128 (hi lo : BitVec 64) : (BigEndianUint128 hi lo).lo = lo := by
  simp [Bytes16.lo, BigEndianUint128, List.drop_left', Uint64_PutUint64]

/-- The join `BigEndianUint128` and the split into `binary.BigEndian.Uint64` of
    `b[0:8]` and of `b[8:16]` undo each other, both ways round. -/
theorem BigEndianUint128_inverse :
    (∀ b : Bytes16, BigEndianUint128 b.hi b.lo = b) ∧
      ∀ hi lo : BitVec 64, (BigEndianUint128 hi lo).hi = hi ∧ (BigEndianUint128 hi lo).lo = lo :=
  ⟨BigEndianUint128_split, fun hi lo => ⟨Bytes16.hi_BigEndianUint128 hi lo, Bytes16.lo_BigEndianUint128 hi lo⟩⟩

/-- A `time.Time` in UTC: whole seconds since the Unix epoch and the
    nanoseconds into that second. -/
structure GoTime where
  sec : Int
  nsec : Nat
  nsec_lt : nsec < 1000000000
  deriving DecidableEq

/-- `time.Unix(sec, 0)`. -/
def GoTime.unix (sec : Int) : GoTime := ⟨sec, 0, by decide⟩

/-- The Go library functions the package calls whose code the model does not
    reproduce, each with the part of its contract the theorems use. -/
structure Runtime where
  /-- `sort.Slice(xs, less)` where `less(i, j)` is `key(xs[i]) < key(xs[j])`. -/
  sortSlice : {α : Type} → (α → GoString) → List α → List α
  sortSlice_perm : ∀ {α : Type} (key : α → GoString) (xs : List α), (sortSlice key xs).Perm xs
  sortSlice_sorted : ∀ {α : Type} (key : α → GoString) (xs : List α),
    (sortSlice key xs).Sorted fun a b => ¬ key b < key a
  /-- Short slices are sorted by insertion, so two equal elements keep their order. -/
  sortSlice_pair : ∀ {α : Type} (key : α → GoString) (a b : α),
    ¬ key b < key a → sortSlice key [a, b] = [a, b]
  /-- `fmt.Sprintf("%v", f)` of a `float32` and a `float64`, given by their bits. -/
  formatFloat32 : BitVec 32 → GoString
  formatFloat64 : BitVec 64 → GoString
  /-- `strconv.FormatFloat(f, 'f', -1, 32)` and `strconv.FormatFloat(f, 'f', -1, 64)`. -/
  formatFloatF32 : BitVec 32 → GoString
  formatFloatF64 : BitVec 64 → GoString
  /-- The conversions `float32(n)` and `float64(n)` of an integer, and `float64(f)`
      of a `float32`, as IEEE-754 bits. -/
  float32OfInt : Int → BitVec 32
  float64OfInt : Int → BitVec 64
  float64OfFloat32 : BitVec 32 → BitVec 64
  /-- `fmt.Sprintf("%q", s)`. -/
  quote : GoString → GoString
  /-- `fmt.Sprintf("%0.6f", float64(d) / float64(time.Second))` of a duration. -/
  formatSeconds : BitVec 64 → GoString
  /-- `t.Format(LayoutDate)`, `t.Format(LayoutDatetime)` and `t.Format(LayoutTimestamp)`;
      the layouts are declared outside `src/`. -/
  formatDate : GoTime → GoString
  formatDatetime : GoTime → GoString
  formatTimestamp : GoTime → GoString

namespace Runtime

variable (rt : Runtime) {α : Type} (key : α → GoString)

/-- Pairwise distinct keys turn "no inversion" into strictly ascending keys. -/
theorem sortSlice_sorted_lt {xs : List α} (hd : (xs.map key).Nodup) :
    (rt.sortSlice key xs).Sorted fun a b => key a < key b := by
  have hne : (rt.sortSlice key xs).Pairwise fun a b => key a ≠ key b :=
    List.pairwise_map.mp (((rt.sortSlice_perm key xs).map key).nodup_iff.mpr hd)
  exact ((rt.sortSlice_sorted key xs).and hne).imp fun ⟨hn, hne⟩ =>
    (trichotomous_of (· < ·) _ _).resolve_right (not_or.mpr ⟨hne, hn⟩)

/-- A strictly ascending order is the only sorted arrangement of a list. -/
theorem eq_of_sorted_lt {xs ys : List α} (hp : xs.Perm ys)
    (hx : xs.Sorted fun a b => key a < key b) (hy : ys.Sorted fun a b => key a < key b) :
    xs = ys :=
  haveI : IsAntisymm α fun a b => key a < key b :=
    ⟨fun _ _ h h' => absurd (trans_of (· < ·) h h') (irrefl _)⟩
  List.eq_of_perm_of_sorted hp hx hy

/-- Sorting by pairwise distinct keys forgets the input order. -/
theorem sortSlice_eq_of_perm {xs ys : List α} (hp : xs.Perm ys) (hd : (xs.map key).Nodup) :
    rt.sortSlice key xs = rt.sortSlice key ys :=
  eq_of_sorted_lt key (((rt.sortSlice_perm key xs).trans hp).trans (rt.sortSlice_perm key ys).symm)
    (rt.sortSlice_sorted_lt key hd) (rt.sortSlice_sorted_lt key ((hp.map key).nodup_iff.mp hd))

/-- A list already in strictly ascending key order is left as it is. -/
theorem sortSlice_eq_self {xs : List α} (hx : xs.Sorted fun a b => key a < key b) :
    rt.sortSlice key xs = xs :=
  have hd : (xs.map key).Nodup := List.pairwise_map.mpr (hx.imp fun {a b} h (e : key a = key b) => irrefl (key b) (e ▸ h))
  eq_of_sorted_lt key (rt.sortSlice_perm key xs) (rt.sortSlice_sorted_lt key hd) hx

/-- A runtime that meets the contract: insertion sort, which is what Go runs on
    short slices and is a correct `sort.Slice` on any, `%q` as bare double
    quotes, and every other rendering empty. It shows that the contract can be
    met, and gives closed statements a runtime to run on. -/
def insertion : Runtime where
  sortSlice key xs := xs.insertionSort fun a b => ¬ key b < key a
  sortSlice_perm _ xs := List.perm_insertionSort _ xs
  sortSlice_sorted key xs :=
    haveI : IsTotal _ fun a b => ¬ key b < key a :=
      ⟨fun a b => (em (key a < key b)).imp (fun h => asymm h) id⟩
    haveI : IsTrans _ fun a b => ¬ key b < key a := ⟨fun a b c hab hbc hca => by
      rcases (trichotomous (key b) (key a) : key b < key a ∨ key b = key a ∨ key a < key b)
        with h | h | h
      · exact hab h
      · exact hbc (h ▸ hca)
      · exact hbc (trans_of (· < ·) hca h)⟩
    List.sorted_insertionSort _ xs
  sortSlice_pair _ _ _ h := by simp [List.insertionSort, List.orderedInsert, h]
  formatFloat32 _ := []
  formatFloat64 _ := []
  formatFloatF32 _ := []
  formatFloatF64 _ := []
  float32OfInt _ := 0
  float64OfInt _ := 0
  float64OfFloat32 _ := 0
  quote s := GoString.lit "\"" ++ s ++ GoString.lit "\""
  formatSeconds _ := []
  formatDate _ := []
  formatDatetime _ := []
  formatTimestamp _ := []

end Runtime

end YdbSdk
