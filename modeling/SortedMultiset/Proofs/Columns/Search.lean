import SortedMultiset.Proofs.Bag.Edit

/-!
# What a search tells

Bags and builders search their columns by one and the same halving of a window.  On a sound layout at
most one answer fits (`Slot.Fits.unique`) and the one that the search gives does, so the search is known
by what it means (`Columns.WellFormed.search_eq_iff`): an answer that fits can be checked by looking at
the columns, with no window and no midpoint in sight.

An element that is not stored is put in at the slot that the search gives.  The columns ascend before and
behind that slot and the element stands between them, so they ascend again
(`Columns.WellFormed.pairwise_insertIdx`).

* `Columns.search_tells_slot`: when an element is found at a slot, when it belongs before one, and what
  comes of putting it there.
-/

namespace SortedMultiset

variable {α : Type} {e : α} {i n : Nat}

theorem forall_mem_take_iff {P : α → Prop} {xs : List α} :
    (∀ x ∈ xs.take i, P x) ↔ ∀ j < i, ∀ x, xs[j]? = some x → P x := by
  constructor
  · intro h j hj x hx
    exact h x (List.mem_of_getElem? (by rw [List.getElem?_take_of_lt hj, hx]))
  · intro h x hx
    obtain ⟨j, hx⟩ := List.mem_iff_getElem?.mp hx
    rw [List.getElem?_take] at hx
    split_ifs at hx with hj
    exact h j hj x hx

theorem forall_mem_drop_iff {P : α → Prop} {xs : List α} :
    (∀ x ∈ xs.drop i, P x) ↔ ∀ j, i ≤ j → ∀ x, xs[j]? = some x → P x := by
  constructor
  · intro h j hj x hx
    refine h x (List.mem_of_getElem? (i := j - i) ?_)
    rw [List.getElem?_drop, Nat.add_sub_cancel' hj, hx]
  · intro h x hx
    obtain ⟨j, hx⟩ := List.mem_iff_getElem?.mp hx
    rw [List.getElem?_drop] at hx
    exact h (i + j) (Nat.le_add_right i j) x hx

namespace Columns

variable {t : Columns α}

/-- The elements at the slots before `i` are less than an element. -/
def LessBefore (t : Columns α) (e : α) (i : Nat) : Prop :=
  ∀ j < i, ∀ x, t.elements[j]? = some x → t.comparator.compare x e = .lt

/-- The elements at the slots from `i` on are greater than an element. -/
def GreaterFrom (t : Columns α) (e : α) (i : Nat) : Prop :=
  ∀ j, i ≤ j → ∀ x, t.elements[j]? = some x → t.comparator.compare x e = .gt

theorem lessBefore_iff :
    t.LessBefore e i ↔ ∀ x ∈ t.elements.toList.take i, t.comparator.compare x e = .lt := by
  simp only [LessBefore, ← Array.getElem?_toList]
  exact forall_mem_take_iff.symm

theorem greaterFrom_iff :
    t.GreaterFrom e i ↔ ∀ x ∈ t.elements.toList.drop i, t.comparator.compare x e = .gt := by
  simp only [GreaterFrom, ← Array.getElem?_toList]
  exact forall_mem_drop_iff.symm

theorem fits_found_iff :
    (Slot.found i).Fits (t.comparator.compare · e) t.elements.toList ↔
      t.LessBefore e i ∧ (∃ x, t.elements[i]? = some x ∧ t.comparator.compare x e = .eq) ∧
        t.GreaterFrom e (i + 1) := by
  rw [lessBefore_iff, greaterFrom_iff, ← Array.getElem?_toList]
  exact Iff.rfl

theorem fits_absent_iff :
    (Slot.absent i).Fits (t.comparator.compare · e) t.elements.toList ↔
      i ≤ t.distinct ∧ t.LessBefore e i ∧ t.GreaterFrom e i := by
  rw [lessBefore_iff, greaterFrom_iff]
  exact Iff.rfl

/-- Between lesser and greater elements there is none that is equal. -/
theorem compare_ne_eq (hless : t.LessBefore e i) (hgreater : t.GreaterFrom e i) :
    ∀ x ∈ t.elements, t.comparator.compare x e ≠ .eq := by
  intro x hx heq
  obtain ⟨j, hj⟩ := Array.mem_iff_getElem?.mp hx
  rcases Nat.lt_or_ge j i with hlt | hge
  · exact Ordering.noConfusion (heq.symm.trans (hless j hlt x hj))
  · exact Ordering.noConfusion (heq.symm.trans (hgreater j hge x hj))

section Lawful

variable [Std.TransCmp t.comparator.compare]

/-- **A search gives the one answer that fits.** -/
theorem WellFormed.search_eq_iff (h : t.WellFormed) {s : Slot} :
    t.search e = s ↔ s.Fits (t.comparator.compare · e) t.elements.toList := by
  constructor
  · rintro rfl
    exact h.search_fits e
  · exact (h.search_fits e).unique

/-- **An equal element is found at its slot**, since all others are less or greater. -/
theorem WellFormed.search_eq_found_iff (h : t.WellFormed) :
    t.search e = .found i ↔ ∃ x, t.elements[i]? = some x ∧ t.comparator.compare x e = .eq := by
  rw [h.search_eq_iff, fits_found_iff]
  refine ⟨fun hfits => hfits.2.1, fun ⟨x, hx, heq⟩ => ?_⟩
  have hstored : (Slot.found i).Fits (t.comparator.compare · x) t.elements.toList :=
    Slot.fits_found h.ascending (by rwa [Array.getElem?_toList])
  obtain ⟨hless, -, hgreater⟩ := fits_found_iff.mp hstored
  -- what the stored element sees, its equal sees as well
  have hsees : ∀ y, t.comparator.compare y e = t.comparator.compare y x := fun y =>
    (Std.TransCmp.congr_right heq).symm
  refine ⟨fun j hj y hy => ?_, ⟨x, hx, heq⟩, fun j hj y hy => ?_⟩
  · rw [hsees]
    exact hless j hj y hy
  · rw [hsees]
    exact hgreater j hj y hy

/-- **Putting an element where it belongs** keeps the elements ascending. -/
theorem WellFormed.pairwise_insertIdx (h : t.WellFormed) (hs : t.search e = .absent i) :
    (t.elements.toList.insertIdx i e).Pairwise fun a b => t.comparator.compare a b = .lt := by
  obtain ⟨hi, hless, hgreater⟩ := h.search_eq_iff.mp hs
  have hparts := h.ascending
  rw [← List.take_append_drop i t.elements.toList] at hparts
  obtain ⟨hbefore, hbehind, hacross⟩ := List.pairwise_append.mp hparts
  rw [insertIdx_eq_take_append_drop e i _ hi]
  refine List.pairwise_append.mpr ⟨hbefore, List.pairwise_cons.mpr ⟨fun y hy => ?_, hbehind⟩, ?_⟩
  · exact Std.OrientedCmp.lt_of_gt (hgreater y hy)
  · intro x hx y hy
    rcases List.mem_cons.mp hy with rfl | hy
    · exact hless x hx
    · exact hacross x hx y hy

end Lawful

/-! ### Where bags and builders put an element -/

theorem elements_addMany_absent {b : Builder α} (hn : n ≠ 0) (hs : b.search e = .absent i)
    (hi : i ≤ b.elements.size) :
    (b.addMany e n).elements.toList = b.elements.toList.insertIdx i e := by
  simp only [Builder.addMany, hn, hs, if_false]
  exact toList_insertIdxIfInBounds hi e

theorem elements_insertMany_absent {b : Bag α} (hn : n ≠ 0) (hs : b.search e = .absent i)
    (hi : i ≤ b.elements.size) :
    (b.insertMany e n).value.elements.toList = b.elements.toList.insertIdx i e := by
  simp only [Bag.insertMany, hn, hs, if_false, Traced.value_bind, Traced.value_pure, Bag.assemble]
  exact toList_splice hi e

/-- **A search tells the slot of an element**, in the columns of a bag or of a builder.  It is found at a
slot exactly if the element there is equal to it; then the elements before are less and those behind are
greater.  It belongs before a slot exactly if no element is equal to it, those before the slot are less and
those from the slot on are greater.  Adding it puts it there, in a builder as in a bag, and the elements
ascend again. -/
theorem search_tells_slot (h : t.WellFormed) [Std.TransCmp t.comparator.compare] (e : α) (i : Nat) :
    (t.search e = .found i ↔ ∃ x, t.elements[i]? = some x ∧ t.comparator.compare x e = .eq) ∧
    (t.search e = .found i → t.LessBefore e i ∧ t.GreaterFrom e (i + 1)) ∧
    (t.search e = .absent i ↔ i ≤ t.distinct ∧ (∀ x ∈ t.elements, t.comparator.compare x e ≠ .eq) ∧
      t.LessBefore e i ∧ t.GreaterFrom e i) ∧
    (t.search e = .absent i → ∀ n, n ≠ 0 → ∃ elements : List α,
      elements = t.elements.toList.insertIdx i e ∧
      ((⟨t⟩ : Builder α).addMany e n).elements.toList = elements ∧
      ((⟨t⟩ : Bag α).insertMany e n).value.elements.toList = elements ∧
      elements.Pairwise fun a b => t.comparator.compare a b = .lt) := by
  refine ⟨h.search_eq_found_iff, fun hs => ?_, ?_, fun hs n hn => ?_⟩
  · obtain ⟨hless, -, hgreater⟩ := fits_found_iff.mp (h.search_eq_iff.mp hs)
    exact ⟨hless, hgreater⟩
  · rw [h.search_eq_iff, fits_absent_iff]
    constructor
    · rintro ⟨hi, hless, hgreater⟩
      exact ⟨hi, compare_ne_eq hless hgreater, hless, hgreater⟩
    · rintro ⟨hi, -, hless, hgreater⟩
      exact ⟨hi, hless, hgreater⟩
  · have hi : i ≤ t.elements.size := (fits_absent_iff.mp (h.search_eq_iff.mp hs)).1
    exact ⟨_, rfl, elements_addMany_absent hn hs hi, elements_insertMany_absent hn hs hi,
      h.pairwise_insertIdx hs⟩

/-- Numbers by tens, in a bag and in a builder: 29 was never put in and is found at the slot of 25, and 40
belongs before the last slot. -/
theorem search_tells_slot_byTens :
    let t : Columns Nat := ⟨#[12, 25, 51], #[2, 3, 1], .byKey 0 (· / 10), 6⟩
    t.WellFormed ∧ (⟨t⟩ : Bag Nat).search 29 = .found 1 ∧ t.LessBefore 29 1 ∧ t.GreaterFrom 29 2 ∧
      (⟨t⟩ : Builder Nat).search 40 = .absent 2 ∧ t.LessBefore 40 2 ∧ t.GreaterFrom 40 2 ∧
      ((⟨t⟩ : Builder Nat).addMany 40 3).elements.toList = [12, 25, 40, 51] ∧
      [12, 25, 40, 51].Pairwise fun a b => t.comparator.compare a b = .lt := by
  intro t
  have ht : t.WellFormed := by decide
  obtain ⟨hfound, haround, -, -⟩ := search_tells_slot ht 29 1
  obtain ⟨-, -, habsent, hinsert⟩ := search_tells_slot ht 40 2
  have hstored : t.search 29 = .found 1 := hfound.mpr ⟨25, rfl, by decide⟩
  have hplace : t.search 40 = .absent 2 := by decide +kernel
  obtain ⟨hless, hgreater⟩ := haround hstored
  obtain ⟨-, -, hless', hgreater'⟩ := habsent.mp hplace
  obtain ⟨elements, rfl, hbuilder, -, hascending⟩ := hinsert hplace 3 (by decide)
  exact ⟨ht, hstored, hless, hgreater, hplace, hless', hgreater', hbuilder, hascending⟩

end Columns

end SortedMultiset
