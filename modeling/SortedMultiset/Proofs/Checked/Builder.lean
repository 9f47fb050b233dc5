import SortedMultiset.Proofs.Builder
import SortedMultiset.Proofs.Checked.Word

/-!
# Builders on words

A builder finds its slots by a search, keeps a total beside its counts and takes from both what is
removed.  That no index is out of bounds follows from the search alone, which stays inside the array
whatever the comparator answers (`searchWindow_within`); that no difference is negative, from the balance
between the total and the counts (`Columns.Balanced`), which every edit keeps.  Neither asks for an order,
so builders are safe even under a comparator that is none.

* `Builder.checkedAddMany_eq`, `Builder.checkedRemoveMany_eq`, `Builder.checkedFreeze_eq`: the operations
  on words do what those on numbers do, as long as the total is a word.
-/

namespace SortedMultiset

variable {α : Type} {n i : Nat}

/-- Columns whose total is a word. -/
structure Columns.Fits (t : Columns α) : Prop where
  size_lt : t.size < wordSize
  addressable : Addressable t.counts

/-! ### Assembling -/

/-- The bag of two columns, which must have one length; the total is added up. -/
def Bag.checkedAssemble (elements : Array α) (counts : Array Nat) (c : Comparator α) :
    Checked (Bag α) :=
  if elements.size ≠ counts.size then .error (.lengths elements.size counts.size)
  else do
    let size ← Checked.sum counts.toList
    return ⟨⟨elements, counts, c, size⟩⟩

theorem Bag.checkedAssemble_eq {elements : Array α} {counts : Array Nat}
    (hlength : counts.size = elements.size) (hsum : sumCounts counts.toList < wordSize)
    (c : Comparator α) : checkedAssemble elements counts c = .ok (assemble elements counts c) := by
  unfold checkedAssemble
  rw [if_neg fun hne => hne hlength.symm, Checked.sum_eq hsum]
  rfl

namespace Builder

open Checked (ok_bind index_eq_getD insertAt_eq removeAt_eq modify_eq add_eq sub_eq)

variable {b : Builder α} {e : α}

/-! ### The operations on words -/

/-- Adds `n` occurrences of an element. -/
def checkedAddMany (b : Builder α) (e : α) (n : Nat) : Checked (Builder α) :=
  if n = 0 then return b
  else
    match b.search e with
    | .found i => do
      let counts ← Checked.modify b.counts i fun count => Checked.add count n
      let size ← Checked.add b.size n
      return { b with counts, size }
    | .absent i => do
      let elements ← Checked.insertAt b.elements i e
      let counts ← Checked.insertAt b.counts i n
      let size ← Checked.add b.size n
      return { b with elements, counts, size }

/-- Removes up to `n` occurrences of an element; says whether there was anything to remove. -/
def checkedRemoveMany (b : Builder α) (e : α) (n : Nat) : Checked (Bool × Builder α) :=
  if n = 0 then return (false, b)
  else
    match b.search e with
    | .absent _ => return (false, b)
    | .found i => do
      let stored ← Checked.index b.counts i
      if n < stored then
        let counts ← Checked.modify b.counts i fun count => Checked.sub count n
        let size ← Checked.sub b.size n
        return (true, { b with counts, size })
      else
        let size ← Checked.sub b.size stored
        let elements ← Checked.removeAt b.elements i
        let counts ← Checked.removeAt b.counts i
        return (true, { b with elements, counts, size })

/-- Freezes the content into a bag. -/
def checkedFreeze (b : Builder α) : Checked (Bag α) :=
  if b.elements.isEmpty then return .empty b.comparator
  else Bag.checkedAssemble b.elements b.counts b.comparator

/-! ### No operation stops -/

section

variable (h : b.Balanced)
include h

theorem checkedAddMany_eq (e : α) (hsize : b.size + n < wordSize) :
    b.checkedAddMany e n = .ok (b.addMany e n) := by
  unfold checkedAddMany addMany
  by_cases hn : n = 0
  · rw [if_pos hn, if_pos hn]
    rfl
  rw [if_neg hn, if_neg hn]
  cases hs : b.search e with
  | found i =>
    have hi := (h.found_lt hs).2
    have hcount : b.counts[i] + n < wordSize := by
      have hle := h.getD_le i
      rw [Array.getElem_eq_getD 0]
      omega
    dsimp only
    rw [modify_eq (f := (· + n)) hi (add_eq hcount), ok_bind, add_eq hsize]
    rfl
  | absent i =>
    obtain ⟨hi, hi'⟩ := h.absent_le hs
    dsimp only
    rw [insertAt_eq hi, ok_bind, insertAt_eq hi', ok_bind, add_eq hsize]
    rfl

theorem checkedRemoveMany_eq (e : α) (n : Nat) :
    b.checkedRemoveMany e n = .ok (b.removeMany e n) := by
  unfold checkedRemoveMany removeMany
  by_cases hn : n = 0
  · rw [if_pos hn, if_pos hn]
    rfl
  rw [if_neg hn, if_neg hn]
  cases hs : b.search e with
  | absent i => rfl
  | found i =>
    obtain ⟨hi, hi'⟩ := h.found_lt hs
    have hle := h.getD_le i
    dsimp only
    rw [index_eq_getD hi' 0, ok_bind]
    by_cases hlt : n < b.counts.getD i 0
    · have hcount : n ≤ b.counts[i] := by
        rw [Array.getElem_eq_getD 0]
        exact Nat.le_of_lt hlt
      rw [if_pos hlt, if_pos hlt, modify_eq (f := (· - n)) hi' (sub_eq hcount), ok_bind,
        sub_eq (by omega)]
      rfl
    · rw [if_neg hlt, if_neg hlt, sub_eq hle, ok_bind, removeAt_eq hi, ok_bind, removeAt_eq hi']
      rfl

theorem checkedFreeze_eq (hsize : b.size < wordSize) : b.checkedFreeze = .ok b.freeze.value := by
  unfold checkedFreeze freeze
  rw [Traced.value_bind, Traced.value_pure]
  by_cases hempty : b.elements.isEmpty
  · rw [if_pos hempty, if_pos hempty]
    rfl
  · rw [if_neg hempty, if_neg hempty]
    exact Bag.checkedAssemble_eq h.length_eq (by rw [← h.size_eq]; exact hsize) _

end

/-- A builder that never stops at a fault, so long as its total stays a word. -/
structure Safe (b : Builder α) : Prop where
  addMany : ∀ e n, b.size + n < wordSize → b.checkedAddMany e n = .ok (b.addMany e n)
  removeMany : ∀ e n, b.checkedRemoveMany e n = .ok (b.removeMany e n)
  freeze : b.checkedFreeze = .ok b.freeze.value

/-- **Builders whose total is a word are safe.** -/
theorem safe (h : b.Balanced) (hsize : b.size < wordSize) : b.Safe where
  addMany e _ hn := checkedAddMany_eq h e hn
  removeMany := checkedRemoveMany_eq h
  freeze := checkedFreeze_eq h hsize

end Builder

end SortedMultiset
