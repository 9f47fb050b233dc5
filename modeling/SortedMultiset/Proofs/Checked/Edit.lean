import SortedMultiset.Bag.Edit
import SortedMultiset.Proofs.Checked.Builder

/-!
# Edits of bags on words

An edit of one element splices the columns at the slot that a search tells, and a search stays inside.
The total of the new bag is summed anew: it is that of the old one and what was added, or at most that of
the old one, if something was removed.
-/

namespace SortedMultiset.Bag

open Checked (ok_bind add_eq sub_eq index_eq_getD before_eq behind_eq modify_eq)

variable {α : Type} {b : Bag α} {e : α} {n : Nat}

/-! ### The operations on words -/

/-- The bag with `n` more occurrences of an element. -/
def checkedInsertMany (b : Bag α) (e : α) (n : Nat) : Checked (Bag α) :=
  if n = 0 then return b
  else
    match b.search e with
    | .found i => do
      let counts ← Checked.modify b.counts i fun count => Checked.add count n
      checkedAssemble b.elements counts b.comparator
    | .absent i => do
      -- the length that the new columns are to have
      let _ ← Checked.add b.elements.size 1
      let elementsBefore ← Checked.before b.elements i
      let elementsBehind ← Checked.behind b.elements i
      let _ ← Checked.add b.counts.size 1
      let countsBefore ← Checked.before b.counts i
      let countsBehind ← Checked.behind b.counts i
      checkedAssemble (elementsBefore ++ #[e] ++ elementsBehind)
        (countsBefore ++ #[n] ++ countsBehind) b.comparator

/-- The bag with one occurrence of an element less, if there is one. -/
def checkedErase (b : Bag α) (e : α) : Checked (Bag α) :=
  match b.search e with
  | .absent _ => return b
  | .found i => do
    let count ← Checked.index b.counts i
    if 1 < count then
      let counts ← Checked.modify b.counts i fun count => Checked.sub count 1
      checkedAssemble b.elements counts b.comparator
    else
      let next ← Checked.add i 1
      let elementsBefore ← Checked.before b.elements i
      let elementsBehind ← Checked.behind b.elements next
      let countsBefore ← Checked.before b.counts i
      let countsBehind ← Checked.behind b.counts next
      checkedAssemble (elementsBefore ++ elementsBehind) (countsBefore ++ countsBehind) b.comparator

/-! ### No operation stops -/

theorem checkedInsertMany_eq (h : b.Balanced) (hfits : b.Fits) (e : α)
    (hsize : b.size + n < wordSize) : b.checkedInsertMany e n = .ok (b.insertMany e n).value := by
  unfold checkedInsertMany insertMany
  by_cases hn : n = 0
  · rw [if_pos hn, if_pos hn]
    rfl
  rw [if_neg hn, if_neg hn]
  have htotal := h.size_eq
  cases hs : b.search e with
  | found i =>
    have hi := (h.found_lt hs).2
    have hsum := sumCounts_modify (· + n) b.counts.toList hi
    have hcount : b.counts[i] + n < wordSize := by
      have hle := h.getD_le i
      rw [Array.getElem_eq_getD 0]
      omega
    dsimp only
    rw [modify_eq (f := (· + n)) hi (add_eq hcount), ok_bind]
    refine checkedAssemble_eq (Array.size_modify.trans h.length_eq) ?_ _
    rw [Array.toList_modify]
    omega
  | absent i =>
    obtain ⟨hi, hi'⟩ := h.absent_le hs
    have hcounts := hfits.addressable.lt (Nat.le_refl _)
    have helements : b.elements.size + 1 < wordSize := by
      rw [← h.length_eq]
      exact hcounts
    dsimp only
    rw [add_eq helements, ok_bind, before_eq hi, ok_bind, behind_eq hi, ok_bind, add_eq hcounts,
      ok_bind, before_eq hi', ok_bind, behind_eq hi', ok_bind, Traced.value_bind]
    refine checkedAssemble_eq ?_ ?_ _
    · have hlength := h.length_eq
      simp only [Array.size_append, Array.size_extract, List.size_toArray, List.length_cons]
      omega
    · rw [toList_splice hi', sumCounts_insertIdx _ hi', ← htotal]
      exact hsize

theorem checkedErase_eq (h : b.Balanced) (hfits : b.Fits) (e : α) :
    b.checkedErase e = .ok (b.erase e).value := by
  have hsize := hfits.size_lt
  rw [h.size_eq] at hsize
  unfold checkedErase erase
  cases hs : b.search e with
  | absent i => rfl
  | found i =>
    obtain ⟨hi, hi'⟩ := h.found_lt hs
    dsimp only
    rw [index_eq_getD hi' 0, ok_bind]
    by_cases hlt : 1 < b.counts.getD i 0
    · have hcount : 1 ≤ b.counts[i] := by
        rw [Array.getElem_eq_getD 0]
        exact Nat.le_of_lt hlt
      have hsum := sumCounts_modify (· - 1) b.counts.toList hi'
      rw [if_pos hlt, if_pos hlt, modify_eq (f := (· - 1)) hi' (sub_eq hcount), ok_bind]
      refine checkedAssemble_eq (Array.size_modify.trans h.length_eq) ?_ _
      rw [Array.toList_modify]
      omega
    · have hsum := sumCounts_eraseIdx b.counts.toList hi'
      rw [if_neg hlt, if_neg hlt, add_eq (hfits.addressable.lt (Nat.le_of_lt hi')), ok_bind,
        before_eq (Nat.le_of_lt hi), ok_bind, behind_eq hi, ok_bind, before_eq (Nat.le_of_lt hi'),
        ok_bind, behind_eq hi', ok_bind, Traced.value_bind]
      refine checkedAssemble_eq ?_ ?_ _
      · have hlength := h.length_eq
        simp only [Array.size_append, Array.size_extract]
        omega
      · rw [toList_unsplice]
        omega

end SortedMultiset.Bag
