import Mathlib.Tactic.SplitIfs
import SortedMultiset.Counts
import SortedMultiset.Error

/-!
# Arithmetic that can fail

Numbers of a program are machine words, and its arrays have bounds: a sum may be too large for a word, a
difference may be negative, an index or a bound of a slice may lie outside.  `Checked` is the monad of
programs that stop at the first such `Fault`.  Its operations say what they need, and each has one lemma
that tells its result where the need is met.

Words have 64 bits.  An array of words occupies at most `2⁶³ - 1` bytes of memory, whatever stands in it
(`Addressable`), so its slots can be numbered, and the place behind the last as well.
-/

namespace SortedMultiset

/-- Why a program stops. -/
inductive Fault where
  /-- An index that is not below the length. -/
  | index (i length : Nat)
  /-- A bound of a slice, or a place to insert, beyond the length. -/
  | bound (i length : Nat)
  /-- A sum that is too large for a word. -/
  | overflow (m n : Nat)
  /-- A difference that is negative. -/
  | underflow (m n : Nat)
  /-- Columns that differ in length. -/
  | lengths (elements counts : Nat)
  deriving DecidableEq, Repr

/-- The number of different words. -/
def wordSize : Nat := 18446744073709551616

/-- An array of words that fits into memory. -/
def Addressable (counts : Array Nat) : Prop := 8 * counts.size < 9223372036854775808

theorem Addressable.lt {counts : Array Nat} (h : Addressable counts) {i : Nat} (hi : i ≤ counts.size) :
    i + 1 < wordSize := by
  unfold Addressable at h
  unfold wordSize
  omega

/-- A program that may stop at a fault. -/
abbrev Checked (β : Type) := Except Fault β

namespace Checked

variable {β γ : Type} {xs : Array β} {x : β} {m n i : Nat} {counts : List Nat}

@[simp] theorem ok_bind (x : β) (f : β → Checked γ) : ((.ok x : Checked β) >>= f) = f x := rfl

/-! ### Arguments -/

/-- Goes on if an argument passes its check.  An argument that does not is answered by an error. -/
def guardedBy (check : Except Error Unit) (next : Checked (Except Error β)) :
    Checked (Except Error β) :=
  match check with
  | .ok () => next
  | .error cause => .ok (.error cause)

@[simp] theorem guardedBy_ok (next : Checked (Except Error β)) :
    guardedBy (.ok ()) next = next := rfl

@[simp] theorem guardedBy_error (cause : Error) (next : Checked (Except Error β)) :
    guardedBy (.error cause) next = .ok (.error cause) := rfl

/-! ### Words -/

/-- The sum of two words. -/
def add (m n : Nat) : Checked Nat :=
  if m + n < wordSize then .ok (m + n) else .error (.overflow m n)

/-- The difference of two words. -/
def sub (m n : Nat) : Checked Nat :=
  if n ≤ m then .ok (m - n) else .error (.underflow m n)

theorem add_eq (h : m + n < wordSize) : add m n = .ok (m + n) := if_pos h

theorem sub_eq (h : n ≤ m) : sub m n = .ok (m - n) := if_pos h

theorem eq_of_add_eq_ok (h : add m n = .ok i) : i = m + n := by
  unfold add at h
  split_ifs at h
  exact (Except.ok.inj h).symm

/-- The sum of a column, added up from the left. -/
def sum (counts : List Nat) : Checked Nat := counts.foldlM add 0

theorem foldlM_add_eq (h : m + sumCounts counts < wordSize) :
    counts.foldlM add m = .ok (m + sumCounts counts) := by
  induction counts generalizing m with
  | nil => rfl
  | cons n counts ih =>
    rw [sumCounts_cons] at h ⊢
    rw [List.foldlM_cons, add_eq (by omega), ok_bind, ih (by omega), Nat.add_assoc]

theorem sum_eq (h : sumCounts counts < wordSize) : sum counts = .ok (sumCounts counts) := by
  unfold sum
  rw [foldlM_add_eq (by rwa [Nat.zero_add]), Nat.zero_add]

/-! ### Arrays -/

/-- The item at an index. -/
def index (xs : Array β) (i : Nat) : Checked β :=
  match xs[i]? with
  | some x => .ok x
  | none => .error (.index i xs.size)

theorem index_eq (h : xs[i]? = some x) : index xs i = .ok x := by
  unfold index
  rw [h]

theorem lt_of_index_eq_ok (h : index xs i = .ok x) : i < xs.size := by
  unfold index at h
  split at h
  · next hget => exact (Array.getElem?_eq_some_iff.mp hget).1
  · cases h

theorem index_eq_getD (h : i < xs.size) (d : β) : index xs i = .ok (xs.getD i d) := by
  rw [Array.getD_eq_getD_getElem?, Array.getElem?_eq_getElem h]
  exact index_eq (Array.getElem?_eq_getElem h)

/-- The items before a bound. -/
def before (xs : Array β) (i : Nat) : Checked (Array β) :=
  if i ≤ xs.size then .ok (xs.extract 0 i) else .error (.bound i xs.size)

/-- The items from a bound on. -/
def behind (xs : Array β) (i : Nat) : Checked (Array β) :=
  if i ≤ xs.size then .ok (xs.extract i) else .error (.bound i xs.size)

/-- The array with an item inserted before a place. -/
def insertAt (xs : Array β) (i : Nat) (x : β) : Checked (Array β) :=
  if i ≤ xs.size then .ok (xs.insertIdxIfInBounds i x) else .error (.bound i xs.size)

/-- The array without the item at an index. -/
def removeAt (xs : Array β) (i : Nat) : Checked (Array β) :=
  if i < xs.size then .ok (xs.eraseIdxIfInBounds i) else .error (.index i xs.size)

/-- The array with the item at an index changed. -/
def modify (xs : Array β) (i : Nat) (change : β → Checked β) : Checked (Array β) := do
  let x ← index xs i
  let y ← change x
  return xs.setIfInBounds i y

theorem before_eq (h : i ≤ xs.size) : before xs i = .ok (xs.extract 0 i) := if_pos h

theorem behind_eq (h : i ≤ xs.size) : behind xs i = .ok (xs.extract i) := if_pos h

theorem insertAt_eq (h : i ≤ xs.size) (x : β) : insertAt xs i x = .ok (xs.insertIdxIfInBounds i x) :=
  if_pos h

theorem removeAt_eq (h : i < xs.size) : removeAt xs i = .ok (xs.eraseIdxIfInBounds i) := if_pos h

theorem modify_eq {change : β → Checked β} {f : β → β} (hi : i < xs.size)
    (h : change xs[i] = .ok (f xs[i])) : modify xs i change = .ok (xs.modify i f) := by
  have hset : xs.setIfInBounds i (f xs[i]) = xs.modify i f := by
    refine Array.ext (by simp) fun j hj _ => ?_
    rw [Array.getElem_setIfInBounds (by simpa using hj), Array.getElem_modify]
    split_ifs with hij
    · subst hij
      rfl
    · rfl
  unfold modify
  rw [index_eq (Array.getElem?_eq_getElem hi), ok_bind, h, ok_bind, hset]
  rfl

end Checked

end SortedMultiset
