import SortedMultiset.Proofs.Collecting
import SortedMultiset.Proofs.Runs.Deal

/-!
# Many items at once

Adding the items of a list to a bag, or removing them, goes item by item, and where an item is found
changes from step to step.  What becomes of a class does not depend on that: it gets what the items
have of the class (`findRun_addItems`), or loses as much of it, as far as there is any
(`findRun_removeItems`).

A part of a bag, written out, has of every class what the part has of it (`gatherRuns_expand`,
`countLike_expand`).  So adding one part of dealt runs to the other gives the runs back, and removing
it from them leaves the other (`Deals.addItems_expand`, `Deals.removeItems_expand`).
-/

namespace SortedMultiset

variable {α : Type} {cmp : α → α → Ordering} {e x : α} {m n : Nat} {rs ls us : List (α × Nat)}
  {items : List α}

/-- The runs with one more occurrence for each of the items. -/
def addItems (cmp : α → α → Ordering) (items : List α) (rs : List (α × Nat)) : List (α × Nat) :=
  items.foldl (fun rs x => addRun cmp x 1 rs) rs

/-- The runs with one occurrence less for each of the items, as far as there are any. -/
def removeItems (cmp : α → α → Ordering) (items : List α) (rs : List (α × Nat)) :
    List (α × Nat) :=
  items.foldl (fun rs x => removeRun cmp x 1 rs) rs

theorem addItems_concat (items : List α) (x : α) (rs : List (α × Nat)) :
    addItems cmp (items ++ [x]) rs = addRun cmp x 1 (addItems cmp items rs) := by
  unfold addItems
  rw [List.foldl_append, List.foldl_cons, List.foldl_nil]

theorem removeItems_cons (x : α) (items : List α) (rs : List (α × Nat)) :
    removeItems cmp (x :: items) rs = removeItems cmp items (removeRun cmp x 1 rs) := rfl

theorem countLike_cons (x : α) (items : List α) (e : α) :
    countLike cmp (x :: items) e = countLike cmp items e + if cmp x e = .eq then 1 else 0 := by
  unfold countLike
  rw [List.countP_cons]
  simp

theorem sortedRuns_removeItems (h : SortedRuns cmp rs) (items : List α) :
    SortedRuns cmp (removeItems cmp items rs) :=
  List.foldlRecOn items _ h fun _ h _ _ => sortedRuns_removeRun h

/-! ### Growing and shrinking step by step -/

/-- What is added to the second part is added to the whole. -/
theorem grownRun_joinRun (r s : Option (α × Nat)) :
    some (grownRun e n (joinRun r s)) = joinRun r (some (grownRun e n s)) := by
  cases r <;> cases s <;> simp [grownRun, joinRun, Nat.add_assoc]

theorem shrunkRun_shrunkRun (r : Option (α × Nat)) :
    shrunkRun n (shrunkRun m r) = shrunkRun (m + n) r := by
  cases r with
  | none => rfl
  | some r =>
    have hiff : n < r.2 - m ↔ m + n < r.2 := by omega
    unfold shrunkRun
    rw [Option.bind_some, Option.bind_some]
    by_cases hm : m < r.2
    · rw [if_pos hm, Option.bind_some, Nat.sub_sub]
      simp only [hiff]
    · rw [if_neg hm, if_neg (by omega), Option.bind_none]

theorem SortedRuns.shrunkRun_zero (h : SortedRuns cmp rs) :
    shrunkRun 0 (findRun cmp e rs) = findRun cmp e rs := by
  cases hr : findRun cmp e rs with
  | none => rfl
  | some r =>
    unfold shrunkRun
    rw [Option.bind_some, if_pos (h.positive r (findRun_mem hr)), Nat.sub_zero]

variable [Std.TransCmp cmp]

theorem sortedRuns_addItems (h : SortedRuns cmp rs) (items : List α) :
    SortedRuns cmp (addItems cmp items rs) :=
  List.foldlRecOn items _ h fun _ h _ _ => sortedRuns_addRun h

/-- **A class after an addition of items** has what it had and what the items have of it. -/
theorem findRun_addItems (h : SortedRuns cmp rs) (items : List α) (e : α) :
    findRun cmp e (addItems cmp items rs) =
      joinRun (findRun cmp e rs) (findRun cmp e (gatherRuns cmp items)) := by
  -- from the right, since an item is added after those before it
  induction items using List.reverseRecOn generalizing e with
  | nil => exact (joinRun_none_right _).symm
  | append_singleton items x ih =>
    rw [addItems_concat, gatherRuns_concat, findRun_addRun (sortedRuns_addItems h items),
      findRun_addRun (sortedRuns_gatherRuns items)]
    by_cases hxe : cmp x e = .eq
    · have hcond : 1 ≠ 0 ∧ cmp x e = .eq := ⟨Nat.one_ne_zero, hxe⟩
      rw [if_pos hcond, if_pos hcond, ih, grownRun_joinRun, findRun_congr hxe]
    · have hcond : ¬ (1 ≠ 0 ∧ cmp x e = .eq) := fun h => hxe h.2
      rw [if_neg hcond, if_neg hcond, ih]

/-- **A class after a removal of items** has lost as much as the items have of it, as far as there
was any. -/
theorem findRun_removeItems (h : SortedRuns cmp rs) (items : List α) (e : α) :
    findRun cmp e (removeItems cmp items rs) =
      shrunkRun (countLike cmp items e) (findRun cmp e rs) := by
  induction items generalizing rs with
  | nil => exact h.shrunkRun_zero.symm
  | cons x items ih =>
    rw [removeItems_cons, ih (sortedRuns_removeRun h), findRun_removeRun h, countLike_cons]
    by_cases hxe : cmp x e = .eq
    · rw [if_pos hxe, if_pos hxe, shrunkRun_shrunkRun, findRun_congr hxe, Nat.add_comm]
    · rw [if_neg hxe, if_neg hxe, Nat.add_zero]

/-! ### Runs written out and read again -/

theorem countLike_expand (h : SortedRuns cmp rs) (e : α) :
    countLike cmp (expand rs) e = countRun cmp e rs := by
  induction rs with
  | nil => rfl
  | cons r rs ih =>
    have hhead : countLike cmp (List.replicate r.2 r.1) e = if cmp r.1 e = .eq then r.2 else 0 := by
      unfold countLike
      rw [List.countP_replicate]
      simp
    have happend : countLike cmp (expand (r :: rs)) e =
        countLike cmp (List.replicate r.2 r.1) e + countLike cmp (expand rs) e :=
      List.countP_append
    rw [happend, hhead, ih h.tail]
    by_cases hr : cmp r.1 e = .eq
    · rw [if_pos hr, h.countRun_tail hr, countRun_cons_of_eq hr, Nat.add_zero]
    · rw [if_neg hr, countRun_cons_of_ne hr, Nat.zero_add]

omit [Std.TransCmp cmp] in
theorem firstLike_expand (h : SortedRuns cmp rs) (e : α) :
    firstLike cmp (expand rs) e = (findRun cmp e rs).map Prod.fst := by
  unfold firstLike
  induction rs with
  | nil => rfl
  | cons r rs ih =>
    rw [expand_cons, List.find?_append, List.find?_replicate, if_neg (Nat.ne_of_gt h.head_pos), ih h.tail,
      findRun_cons]
    by_cases hr : cmp r.1 e = .eq
    · simp [hr]
    · simp [hr]

/-- **Runs that are written out and gathered** are as before. -/
theorem gatherRuns_expand (h : SortedRuns cmp rs) : gatherRuns cmp (expand rs) = rs := by
  refine SortedRuns.ext (sortedRuns_gatherRuns _) h fun e => ?_
  rw [findRun_gatherRuns, firstLike_expand h, countLike_expand h, countRun]
  cases findRun cmp e rs <;> rfl

/-! ### Parts of runs -/

theorem Deals.addItems_expand (hd : Deals rs ls us) (h : SortedRuns cmp rs)
    (hl : SortedRuns cmp ls) (hu : SortedRuns cmp us) : addItems cmp (expand us) ls = rs := by
  refine SortedRuns.ext (sortedRuns_addItems hl _) h fun e => ?_
  rw [findRun_addItems hl, gatherRuns_expand hu, hd.findRun_eq h]

theorem Deals.removeItems_expand (hd : Deals rs ls us) (h : SortedRuns cmp rs)
    (hl : SortedRuns cmp ls) (hu : SortedRuns cmp us) : removeItems cmp (expand us) rs = ls := by
  refine SortedRuns.ext (sortedRuns_removeItems h _) hl fun e => ?_
  rw [findRun_removeItems h, countLike_expand hu, countRun, hd.findRun_eq h]
  cases hle : findRun cmp e ls with
  | none => cases findRun cmp e us <;> simp [shrunkRun]
  | some r =>
    have hpos := hl.positive r (findRun_mem hle)
    cases findRun cmp e us <;> simp [shrunkRun, joinRun, hpos]

/-! ### Bags -/

namespace Bag

variable {b : Bag α} {c : Comparator α} [Std.TransCmp c.compare]

theorem entries_insertAll (h : b.SoundIn c) (items : List α) :
    (b.insertAll items).value.entries = addItems c.compare items b.entries := by
  unfold insertAll
  rw [Builder.entries_freeze, Builder.entries_addAll (Builder.soundIn_ofBag h)]
  rfl

theorem entries_eraseAll (h : b.SoundIn c) (items : List α) :
    (b.eraseAll items).value.entries = removeItems c.compare items b.entries := by
  have hB := Builder.soundIn_ofBag h
  unfold eraseAll
  rw [Builder.entries_freeze, Builder.entries_removeAll hB]
  rfl

end Bag

end SortedMultiset
