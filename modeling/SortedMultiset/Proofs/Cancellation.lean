import SortedMultiset.Proofs.Tally

/-!
# Adding and removing cancel

Items that are added and removed again leave a sound bag as it was, whatever the order in which they
are removed (`removeItems_addItems`).  A class that was there keeps its representative, and one that
came with the items goes with the last of them; no removal goes to waste, since every item that is
removed is there.

Removing first is different in two ways.  It must not run out of items, or the addition brings more
than was taken away; and a class that is removed altogether comes back with a new representative.  So
the bag that comes back is equal to the old one, and is the same if equal is identical
(`Bag.insertAll_eraseAll_cancel`).
-/

namespace SortedMultiset

variable {α : Type} {cmp : α → α → Ordering} {e x : α} {n : Nat} {rs : List (α × Nat)}
  {xs ys : List α}

/-- What a run gets from a second one and loses again. -/
theorem shrunkRun_joinRun {run : Option (α × Nat)} (hpos : ∀ r, run = some r → 0 < r.2) :
    shrunkRun n (joinRun run (some (x, n))) = run := by
  cases run with
  | none => simp [joinRun, shrunkRun]
  | some r =>
    have hlt : n < r.2 + n := Nat.lt_add_of_pos_left (hpos r rfl)
    simp [joinRun, shrunkRun, hlt]

/-- **Items that are added and removed again** leave sorted runs as they were. -/
theorem removeItems_addItems [Std.TransCmp cmp] (h : SortedRuns cmp rs)
    (hlike : ∀ e, countLike cmp xs e = countLike cmp ys e) :
    removeItems cmp ys (addItems cmp xs rs) = rs := by
  have hadded := sortedRuns_addItems h xs
  refine SortedRuns.ext (sortedRuns_removeItems hadded ys) h fun e => ?_
  rw [findRun_removeItems hadded, findRun_addItems h, findRun_gatherRuns, ← hlike]
  cases hfirst : firstLike cmp xs e with
  | none =>
    rw [firstLike_eq_none.mp hfirst, Option.map_none, joinRun_none_right]
    exact h.shrunkRun_zero
  | some x =>
    rw [Option.map_some]
    exact shrunkRun_joinRun fun r hr => h.positive r (findRun_mem hr)

namespace Bag

variable {b : Bag α} {c : Comparator α} [Std.TransCmp c.compare]

theorem eraseAll_insertAll (h : b.SoundIn c)
    (hlike : ∀ e, countLike c.compare xs e = countLike c.compare ys e) :
    ((b.insertAll xs).value.eraseAll ys).value = b := by
  have hadded := soundIn_insertAll h xs
  refine ext_entries (soundIn_eraseAll hadded ys) h ?_
  rw [entries_eraseAll hadded, entries_insertAll h]
  exact removeItems_addItems h.sortedRuns hlike

/-- Items that were there are counted as before when they are removed and added again. -/
theorem count_insertAll_eraseAll (h : b.SoundIn c)
    (hlike : ∀ e, countLike c.compare xs e = countLike c.compare ys e)
    (hthere : ∀ e, countLike c.compare xs e ≤ b.count e) (e : α) :
    ((b.eraseAll xs).value.insertAll ys).value.count e = b.count e := by
  rw [count_insertAll (soundIn_eraseAll h xs), count_eraseAll h, ← hlike]
  exact Nat.sub_add_cancel (hthere e)

/-- **Additions and removals cancel.**  If two lists have as many items of every class, removing the
second undoes the addition of the first: the bag is what it was, with the representatives that it had.
If all items are there, adding the second list undoes the removal of the first: the bag is equal to what
it was, and the same if equal is identical. -/
theorem insertAll_eraseAll_cancel [Std.TransCmp b.comparator.compare] (hb : b.WellFormed)
    (hlike : ∀ e, countLike b.comparator.compare xs e = countLike b.comparator.compare ys e) :
    ((b.insertAll xs).value.eraseAll ys).value = b ∧
    ((∀ e, countLike b.comparator.compare xs e ≤ b.count e) →
      BagLike.equals ((b.eraseAll xs).value.insertAll ys).value b = true ∧
      (Std.LawfulEqCmp b.comparator.compare → ((b.eraseAll xs).value.insertAll ys).value = b)) := by
  have h := hb.soundIn
  refine ⟨eraseAll_insertAll h hlike, fun hthere => ?_⟩
  have hback := soundIn_insertAll (soundIn_eraseAll h xs) ys
  have hcount := count_insertAll_eraseAll h hlike hthere
  exact ⟨(equals_iff_count hback h).mpr hcount, fun _ => eq_of_count hback h hcount⟩

/-- Numbers by tens: a class that was there and one that was not, removed in another order and by other
numbers; and a class that is removed altogether and comes back. -/
theorem insertAll_eraseAll_cancel_byTens :
    let c : Comparator Nat := .byKey 0 (· / 10)
    let b : Bag Nat := ⟨⟨#[12, 25], #[2, 1], c, 3⟩⟩
    let m : Bag Nat := ⟨⟨#[12, 25], #[2, 1], .natural 1, 3⟩⟩
    (b.WellFormed ∧ ((b.insertAll [17, 31, 38]).value.eraseAll [30, 19, 33]).value = b) ∧
    (((b.eraseAll [21, 17]).value.insertAll [19, 29]).value.entries = [(12, 2), (29, 1)] ∧
      BagLike.equals ((b.eraseAll [21, 17]).value.insertAll [19, 29]).value b = true) ∧
    m.WellFormed ∧ ((m.eraseAll [25, 12]).value.insertAll [12, 25]).value = m := by
  intro c b m
  have hb : b.WellFormed := by decide
  have hm : m.WellFormed := by decide
  have hten : ∀ k e, c.compare k e = compare (k / 10) (e / 10) := fun _ _ => rfl
  have hnil : ∀ e, countLike c.compare [] e = 0 := fun _ => rfl
  have hadded : ∀ e, countLike c.compare [17, 31, 38] e = countLike c.compare [30, 19, 33] e := by
    intro e
    simp only [countLike_cons, hnil, hten, Nat.compare_eq_eq, Nat.reduceDiv]
    omega
  have htaken : ∀ e, countLike c.compare [21, 17] e = countLike c.compare [19, 29] e := by
    intro e
    simp only [countLike_cons, hnil, hten, Nat.compare_eq_eq, Nat.reduceDiv]
    omega
  have hcount : ∀ e, b.count e = countLike c.compare [12, 12, 25] e :=
    count_eq_countLike hb.soundIn
  have hthere : ∀ e, countLike c.compare [21, 17] e ≤ b.count e := by
    intro e
    simp only [hcount, countLike_cons, hnil, hten, Nat.compare_eq_eq, Nat.reduceDiv]
    omega
  have hcount' : ∀ e, m.count e = countLike m.comparator.compare [12, 12, 25] e :=
    count_eq_countLike hm.soundIn
  have hthere' : ∀ e, countLike m.comparator.compare [25, 12] e ≤ m.count e := by
    intro e
    simp only [hcount', countLike_cons]
    omega
  obtain ⟨hundone, -⟩ := insertAll_eraseAll_cancel hb hadded
  obtain ⟨-, hback⟩ := insertAll_eraseAll_cancel hb htaken
  obtain ⟨-, hsame⟩ := insertAll_eraseAll_cancel hm
    (countLike_perm (show [25, 12].Perm [12, 25] by decide))
  exact ⟨⟨hb, hundone⟩, ⟨by decide +kernel, (hback hthere).1⟩, hm, (hsame hthere').2 inferInstance⟩

end Bag

end SortedMultiset
