import SortedMultiset.Proofs.Bulk

/-!
# Runs in the opposite order

Runs that are sorted in one order are, listed backwards, sorted in the opposite one
(`SortedRuns.reverse`).  The run of every class is the same, so additions and removals take the same runs
to the same runs, wherever these stand (`addRun_reverse`, `removeRun_reverse`), and so do additions and
removals of many items (`addItems_reverse`, `removeItems_reverse`).
-/

namespace SortedMultiset

variable {α : Type} {cmp : α → α → Ordering} {e : α} {n : Nat} {rs ss : List (α × Nat)}
  {items : List α}

theorem expand_reverse (rs : List (α × Nat)) : expand rs.reverse = (expand rs).reverse := by
  induction rs with
  | nil => rfl
  | cons r rs ih =>
    rw [List.reverse_cons, expand_append, ih, expand_cons, expand_cons, expand_nil, List.append_nil,
      List.reverse_append, List.reverse_replicate]

theorem SortedRuns.reverse (h : SortedRuns cmp rs) :
    SortedRuns (fun a b => cmp b a) rs.reverse :=
  ⟨List.pairwise_reverse.mpr h.ascending, fun r hr => h.positive r (List.mem_reverse.mp hr)⟩

variable [htrans : Std.TransCmp cmp]

variable (cmp) in
theorem transCmp_opposite : Std.TransCmp fun a b => cmp b a := htrans.opposite

/-- **The run of a class** does not depend on the direction. -/
theorem SortedRuns.findRun_reverse (h : SortedRuns cmp rs) (e : α) :
    findRun (fun a b => cmp b a) e rs.reverse = findRun cmp e rs := by
  have := transCmp_opposite cmp
  refine Option.ext fun r => ?_
  rw [h.reverse.findRun_eq_some_iff, h.findRun_eq_some_iff, List.mem_reverse,
    Std.OrientedCmp.eq_comm]

/-- Runs that are sorted in opposite orders and have the same runs of all classes are each other's
reverse. -/
theorem SortedRuns.eq_reverse (h : SortedRuns cmp rs) (h' : SortedRuns (fun a b => cmp b a) ss)
    (hruns : ∀ e, findRun (fun a b => cmp b a) e ss = findRun cmp e rs) : ss = rs.reverse := by
  have := transCmp_opposite cmp
  refine h'.ext h.reverse fun e => ?_
  rw [hruns, h.findRun_reverse]

theorem addRun_reverse (h : SortedRuns cmp rs) (e : α) (n : Nat) :
    addRun (fun a b => cmp b a) e n rs.reverse = (addRun cmp e n rs).reverse := by
  have := transCmp_opposite cmp
  refine (sortedRuns_addRun h).eq_reverse (sortedRuns_addRun h.reverse) fun x => ?_
  have hclass : cmp e x = .eq ↔ cmp x e = .eq := Std.OrientedCmp.eq_comm
  simp only [findRun_addRun h.reverse, findRun_addRun h, h.findRun_reverse, hclass]

theorem removeRun_reverse (h : SortedRuns cmp rs) (e : α) (n : Nat) :
    removeRun (fun a b => cmp b a) e n rs.reverse = (removeRun cmp e n rs).reverse := by
  have := transCmp_opposite cmp
  refine (sortedRuns_removeRun h).eq_reverse (sortedRuns_removeRun h.reverse) fun x => ?_
  have hclass : cmp e x = .eq ↔ cmp x e = .eq := Std.OrientedCmp.eq_comm
  simp only [findRun_removeRun h.reverse, findRun_removeRun h, h.findRun_reverse, hclass]

theorem addItems_reverse (h : SortedRuns cmp rs) (items : List α) :
    addItems (fun a b => cmp b a) items rs.reverse = (addItems cmp items rs).reverse := by
  unfold addItems
  induction items generalizing rs with
  | nil => rfl
  | cons x items ih =>
    rw [List.foldl_cons, List.foldl_cons, addRun_reverse h, ih (sortedRuns_addRun h)]

theorem removeItems_reverse (h : SortedRuns cmp rs) (items : List α) :
    removeItems (fun a b => cmp b a) items rs.reverse = (removeItems cmp items rs).reverse := by
  induction items generalizing rs with
  | nil => rfl
  | cons x items ih =>
    rw [removeItems_cons, removeItems_cons, removeRun_reverse h, ih (sortedRuns_removeRun h)]

end SortedMultiset
