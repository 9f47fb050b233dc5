import SortedMultiset.Proofs.Canonical

/-!
# What edits add up to

Every edit moves the count of a class by an amount that does not depend on what else is there: an
addition by what is added of the class (`Builder.countRun_addRuns`), a removal by what is removed of
it, as far as there is any (`countRun_removeItems`).  Since counts decide the form of a sound bag
(`Bag.sameForm_iff_count`), and the bag itself where equal is identical (`Bag.eq_of_count`), only the
amounts matter: neither the order in which items are added or removed, nor whether occurrences of a
class come at once or in several goes, from one representative or from many.

Removals keep the representatives that are there, so their order does not even matter for these
(`Bag.eraseAll_congr`).  `Bag.order_irrelevant` puts it all together.
-/

namespace SortedMultiset

variable {α : Type} {cmp : α → α → Ordering} {e x : α} {n : Nat} {rs ss : List (α × Nat)}
  {xs ys : List α}

/-- How many occurrences runs hold of a class.  The runs need not be sorted, and there may be several of
one class. -/
def classTotal (cmp : α → α → Ordering) (runs : List (α × Nat)) (e : α) : Nat :=
  total (runs.filter fun r => cmp r.1 e == .eq)

theorem classTotal_cons (r : α × Nat) (runs : List (α × Nat)) (e : α) :
    classTotal cmp (r :: runs) e = (if cmp r.1 e = .eq then r.2 else 0) + classTotal cmp runs e := by
  unfold classTotal
  by_cases h : cmp r.1 e = .eq
  · rw [List.filter_cons_of_pos (by simpa using h), total_cons, if_pos h]
  · rw [List.filter_cons_of_neg (by simpa using h), if_neg h, Nat.zero_add]

/-- Items are runs of one occurrence each. -/
theorem classTotal_ones (items : List α) (e : α) :
    classTotal cmp (items.map fun x => (x, 1)) e = countLike cmp items e := by
  induction items with
  | nil => rfl
  | cons x items ih => rw [List.map_cons, classTotal_cons, ih, countLike_cons, Nat.add_comm]

theorem countLike_perm (h : xs.Perm ys) (e : α) : countLike cmp xs e = countLike cmp ys e :=
  h.countP_eq _

/-! ### What counts decide -/

theorem AlikeRuns.eq [Std.LawfulEqCmp cmp] (h : AlikeRuns cmp rs ss) : rs = ss := by
  unfold AlikeRuns at h
  have hsame : List.Forall₂ Eq rs ss :=
    h.imp fun r s hrs => Prod.ext (Std.LawfulEqCmp.eq_of_compare hrs.2) hrs.1
  exact List.forall₂_eq_eq_eq ▸ hsame

namespace Bag

variable {a b : Bag α} {c : Comparator α} [Std.TransCmp c.compare]

theorem countRun_iff_count (ha : a.SoundIn c) (hb : b.SoundIn c) :
    (∀ e, countRun c.compare e a.entries = countRun c.compare e b.entries) ↔
      ∀ e, a.count e = b.count e := by
  refine forall_congr' fun e => ?_
  rw [ha.count_eq, hb.count_eq]

/-- **Sound bags in one order have one form** if they have the same counts. -/
theorem sameForm_iff_count (ha : a.SoundIn c) (hb : b.SoundIn c) :
    a.SameForm b ↔ ∀ e, a.count e = b.count e := by
  rw [sameForm_iff ha.wellFormed hb.wellFormed, ha.comparator_eq,
    ← ha.sortedRuns.countRun_iff hb.sortedRuns, countRun_iff_count ha hb]

/-- **Sound bags in one order are the same** if they have the same counts and equal is identical. -/
theorem eq_of_count [Std.LawfulEqCmp c.compare] (ha : a.SoundIn c) (hb : b.SoundIn c)
    (h : ∀ e, a.count e = b.count e) : a = b := by
  have halike : AlikeRuns c.compare a.entries b.entries :=
    ha.sortedRuns.alike_of_countRun hb.sortedRuns ((countRun_iff_count ha hb).mpr h)
  exact ext_entries ha hb halike.eq

/-- Sound bags in one order are equal if they have the same counts. -/
theorem equals_iff_count (ha : a.SoundIn c) (hb : b.SoundIn c) :
    BagLike.equals a b = true ↔ ∀ e, a.count e = b.count e := by
  have hiff := countRun_iff_count ha hb
  obtain ⟨hwf, rfl⟩ := ha
  rw [equals_iff_countRun hwf hb.wellFormed (by rw [hb.comparator_eq]), hiff]

end Bag

/-! ### What edits do to counts -/

section Counts

variable [Std.TransCmp cmp]

theorem countRun_addRun (h : SortedRuns cmp rs) :
    countRun cmp x (addRun cmp e n rs) = countRun cmp x rs + if cmp e x = .eq then n else 0 := by
  by_cases hn : n = 0
  · rw [hn, addRun_zero, ite_self, Nat.add_zero]
  unfold countRun
  rw [findRun_addRun h]
  by_cases hex : cmp e x = .eq
  · rw [if_pos ⟨hn, hex⟩, if_pos hex, findRun_congr hex]
    cases findRun cmp x rs with
    | none => exact (Nat.zero_add n).symm
    | some r => rfl
  · rw [if_neg fun h => hex h.2, if_neg hex, Nat.add_zero]

/-- **The count of a class after a removal of items** is less by what they have of it. -/
theorem countRun_removeItems (h : SortedRuns cmp rs) (items : List α) (e : α) :
    countRun cmp e (removeItems cmp items rs) = countRun cmp e rs - countLike cmp items e := by
  unfold countRun
  rw [findRun_removeItems h, count_shrunkRun]

end Counts

namespace Builder

variable {b : Builder α} {c : Comparator α} [Std.TransCmp c.compare]

omit [Std.TransCmp c.compare] in
theorem addAll_eq_addRuns (b : Builder α) (items : List α) :
    b.addAll items = b.addRuns (items.map fun x => (x, 1)) := by
  unfold addAll addRuns
  rw [List.foldl_map]
  rfl

/-- **The count of a class after an addition of runs** is more by what they have of it. -/
theorem countRun_addRuns (h : b.SoundIn c) (runs : List (α × Nat)) (e : α) :
    countRun c.compare e (b.addRuns runs).entries =
      countRun c.compare e b.entries + classTotal c.compare runs e := by
  induction runs generalizing b with
  | nil => rfl
  | cons r runs ih =>
    have hstep : countRun c.compare e (b.addMany r.1 r.2).entries =
        countRun c.compare e b.entries + if c.compare r.1 e = .eq then r.2 else 0 := by
      rw [entries_addMany h, countRun_addRun h.sortedRuns]
    have hrest := ih (soundIn_addMany h r.1 r.2)
    rw [hstep, Nat.add_assoc, ← classTotal_cons] at hrest
    exact hrest

/-- A builder that is given runs and frozen counts what it was given. -/
theorem count_freeze_addRuns (runs : List (α × Nat)) (e : α) :
    ((empty c).addRuns runs).freeze.value.count e = classTotal c.compare runs e := by
  have h := soundIn_addRuns (soundIn_empty c) runs
  have hcount := countRun_addRuns (soundIn_empty c) runs e
  rw [(soundIn_freeze h).count_eq, entries_freeze, hcount]
  exact Nat.zero_add _

end Builder

namespace Bag

variable {b : Bag α} {c : Comparator α} [Std.TransCmp c.compare]

/-- The count of a class is how many elements of the expanded sequence are of it. -/
theorem count_eq_countLike (h : b.SoundIn c) (e : α) : b.count e = countLike c.compare b.toList e :=
  (h.count_eq e).trans (countLike_expand h.sortedRuns e).symm

theorem count_insertAll (h : b.SoundIn c) (items : List α) (e : α) :
    (b.insertAll items).value.count e = b.count e + countLike c.compare items e := by
  have hB := Builder.soundIn_ofBag h
  have hadd := Builder.countRun_addRuns hB (items.map fun x => (x, 1)) e
  rw [← Builder.addAll_eq_addRuns, classTotal_ones] at hadd
  rw [(soundIn_insertAll h items).count_eq, h.count_eq]
  unfold insertAll
  rw [Builder.entries_freeze, hadd]
  rfl

theorem count_eraseAll (h : b.SoundIn c) (items : List α) (e : α) :
    (b.eraseAll items).value.count e = b.count e - countLike c.compare items e := by
  rw [(soundIn_eraseAll h items).count_eq, h.count_eq, entries_eraseAll h,
    countRun_removeItems h.sortedRuns]

/-- **A removal of items** depends on nothing but how many there are of each class. -/
theorem eraseAll_congr (h : b.SoundIn c)
    (hlike : ∀ e, countLike c.compare xs e = countLike c.compare ys e) :
    (b.eraseAll xs).value = (b.eraseAll ys).value := by
  refine ext_entries (soundIn_eraseAll h xs) (soundIn_eraseAll h ys) ?_
  rw [entries_eraseAll h, entries_eraseAll h]
  refine SortedRuns.ext (sortedRuns_removeItems h.sortedRuns xs)
    (sortedRuns_removeItems h.sortedRuns ys) fun e => ?_
  rw [findRun_removeItems h.sortedRuns, findRun_removeItems h.sortedRuns, hlike]

/-- **The order of edits is irrelevant.**  Items that are removed in another order leave the same bag,
and items that are added in another order make a bag of the same form, which is the same bag where equal
is identical; every class loses or gains what the items have of it.  Builders that are given runs one by
one freeze to bags of one form exactly when every class was given as much in both, in whatever order
and in whatever portions. -/
theorem order_irrelevant [Std.TransCmp b.comparator.compare] (hb : b.WellFormed) (hperm : xs.Perm ys)
    (given given' : List (α × Nat)) :
    ((b.eraseAll xs).value = (b.eraseAll ys).value ∧
      ∀ e, (b.eraseAll xs).value.count e = b.count e - countLike b.comparator.compare xs e) ∧
    ((b.insertAll xs).value.SameForm (b.insertAll ys).value ∧
      (Std.LawfulEqCmp b.comparator.compare → (b.insertAll xs).value = (b.insertAll ys).value) ∧
      ∀ e, (b.insertAll xs).value.count e = b.count e + countLike b.comparator.compare xs e) ∧
    (((Builder.empty c).addRuns given).freeze.value.SameForm
        ((Builder.empty c).addRuns given').freeze.value ↔
      ∀ e, classTotal c.compare given e = classTotal c.compare given' e) ∧
    ∀ e, ((Builder.empty c).addRuns given).freeze.value.count e = classTotal c.compare given e := by
  have h := hb.soundIn
  have hlike : ∀ e, countLike b.comparator.compare xs e = countLike b.comparator.compare ys e :=
    countLike_perm hperm
  have hcount : ∀ e, (b.insertAll xs).value.count e = (b.insertAll ys).value.count e := by
    intro e
    rw [count_insertAll h, count_insertAll h, hlike]
  have hgiven : ∀ runs, ((Builder.empty c).addRuns runs).freeze.value.SoundIn c := fun runs =>
    Builder.soundIn_freeze (Builder.soundIn_addRuns (Builder.soundIn_empty c) runs)
  refine ⟨⟨eraseAll_congr h hlike, count_eraseAll h xs⟩, ⟨?_, fun _ => ?_, count_insertAll h xs⟩,
    ?_, Builder.count_freeze_addRuns given⟩
  · exact (sameForm_iff_count (soundIn_insertAll h xs) (soundIn_insertAll h ys)).mpr hcount
  · exact eq_of_count (soundIn_insertAll h xs) (soundIn_insertAll h ys) hcount
  · rw [sameForm_iff_count (hgiven given) (hgiven given')]
    simp only [Builder.count_freeze_addRuns]

/-- Numbers by tens: the first of the thirties to come stands for them, and is counted as often in either
order.  In their own order nothing is left open. -/
theorem order_irrelevant_byTens :
    let c : Comparator Nat := .byKey 0 (· / 10)
    let b : Bag Nat := ⟨⟨#[12, 25], #[2, 1], c, 3⟩⟩
    let m : Bag Nat := ⟨⟨#[12, 25], #[2, 1], .natural 1, 3⟩⟩
    (b.WellFormed ∧ [17, 31, 38].Perm [38, 31, 17] ∧
      (b.insertAll [17, 31, 38]).value.entries = [(12, 3), (25, 1), (31, 2)] ∧
      (b.insertAll [38, 31, 17]).value.entries = [(12, 3), (25, 1), (38, 2)] ∧
      (b.insertAll [17, 31, 38]).value.SameForm (b.insertAll [38, 31, 17]).value ∧
      (b.eraseAll [17, 31, 38]).value = (b.eraseAll [38, 31, 17]).value) ∧
    (m.WellFormed ∧ (m.insertAll [17, 31, 38]).value = (m.insertAll [38, 31, 17]).value) ∧
    ((Builder.empty c).addRuns [(25, 1), (12, 2), (31, 0), (17, 3)]).freeze.value.SameForm
      ((Builder.empty c).addRuns [(19, 5), (21, 1)]).freeze.value := by
  intro c b m
  have hb : b.WellFormed := by decide
  have hm : m.WellFormed := by decide
  have hperm : [17, 31, 38].Perm [38, 31, 17] := by decide
  have hgiven : ∀ e, classTotal c.compare [(25, 1), (12, 2), (31, 0), (17, 3)] e =
      classTotal c.compare [(19, 5), (21, 1)] e := by
    intro e
    have hnil : classTotal c.compare [] e = 0 := rfl
    have hten : ∀ n, c.compare n e = compare (n / 10) (e / 10) := fun _ => rfl
    simp only [classTotal_cons, hnil, hten, Nat.compare_eq_eq]
    split_ifs <;> omega
  obtain ⟨⟨herase, -⟩, ⟨hform, -, -⟩, hbuilders, -⟩ := order_irrelevant (c := c) hb hperm
    [(25, 1), (12, 2), (31, 0), (17, 3)] [(19, 5), (21, 1)]
  obtain ⟨-, ⟨-, hsame, -⟩, -, -⟩ := order_irrelevant (c := c) hm hperm [] []
  exact ⟨⟨hb, hperm, by decide +kernel, by decide +kernel, hform, herase⟩,
    ⟨hm, hsame inferInstance⟩, hbuilders.mpr hgiven⟩

end Bag

end SortedMultiset
