import Mathlib.Logic.Function.Iterate
import SortedMultiset.Proofs.Bag.Edit

/-!
# Splicing, building and batching

A bag can be edited by splicing its columns or by thawing it into a builder that is edited in place
and frozen again.  Both ways give the same bag, since on the runs both are `addRun` or `removeRun`
(`Bag.insertMany_eq_freeze`, `Bag.erase_eq_freeze`).

Many edits at once are the single ones in a row: `n` occurrences are `n` times one occurrence, a
list of items is one item after the other, and in a builder counts add up (`Builder.addMany_add`,
`Builder.removeMany_add`).  `Bag.edit_paths_agree` puts it all together.
-/

namespace SortedMultiset

variable {α : Type} {c : Comparator α} [Std.TransCmp c.compare]

namespace Builder

variable {b : Builder α}

theorem addMany_add (h : b.SoundIn c) (e : α) (m n : Nat) :
    b.addMany e (m + n) = (b.addMany e m).addMany e n := by
  have hm := soundIn_addMany h e m
  refine ext_entries (soundIn_addMany h e _) (soundIn_addMany hm e n) ?_
  rw [entries_addMany h, entries_addMany hm, entries_addMany h]
  exact addRun_add

theorem removeMany_add (h : b.SoundIn c) (e : α) (m n : Nat) :
    (b.removeMany e (m + n)).2 = ((b.removeMany e m).2.removeMany e n).2 := by
  have hm := soundIn_removeMany h e m
  refine ext_entries (soundIn_removeMany h e _) (soundIn_removeMany hm e n) ?_
  rw [entries_removeMany h, entries_removeMany hm, entries_removeMany h]
  exact removeRun_add h.sortedRuns

/-- A removal in two steps finds something exactly when one of the steps does. -/
theorem answer_removeMany_add (h : b.SoundIn c) (e : α) (m n : Nat) :
    (b.removeMany e (m + n)).1 =
      ((b.removeMany e m).1 || ((b.removeMany e m).2.removeMany e n).1) := by
  by_cases hm : m = 0
  · rw [hm, Nat.zero_add, removeMany_zero, Bool.false_or]
  rw [answer_removeMany h, answer_removeMany h, answer_removeMany (soundIn_removeMany h e m),
    entries_removeMany h, findRun_removeRun h.sortedRuns, if_pos Std.ReflCmp.compare_self]
  -- with nothing there at first, the first step leaves nothing there
  cases findRun c.compare e b.entries with
  | none => simp [shrunkRun]
  | some r =>
    have hfirst : (m != 0) = true := by simpa using hm
    have hboth : (m + n != 0) = true := by simp [hm]
    rw [hfirst, hboth]
    rfl

end Builder

namespace Bag

variable {b : Bag α}

/-! ### Splicing is building -/

theorem insertMany_eq_freeze (h : b.SoundIn c) (e : α) (n : Nat) :
    (b.insertMany e n).value = ((Builder.ofBag b).addMany e n).freeze.value := by
  have hB := Builder.soundIn_ofBag h
  refine ext_entries (soundIn_insertMany h e n)
    (Builder.soundIn_freeze (Builder.soundIn_addMany hB e n)) ?_
  rw [entries_insertMany h, Builder.entries_freeze, Builder.entries_addMany hB]
  rfl

theorem erase_eq_freeze (h : b.SoundIn c) (e : α) :
    (b.erase e).value = ((Builder.ofBag b).removeMany e 1).2.freeze.value := by
  have hB := Builder.soundIn_ofBag h
  refine ext_entries (soundIn_erase h e)
    (Builder.soundIn_freeze (Builder.soundIn_removeMany hB e 1)) ?_
  rw [entries_erase h, Builder.entries_freeze, Builder.entries_removeMany hB]
  rfl

/-- Thawing the spliced bag is adding to the thawed one. -/
theorem ofBag_insertMany (h : b.SoundIn c) (e : α) (n : Nat) :
    Builder.ofBag (b.insertMany e n).value = (Builder.ofBag b).addMany e n := by
  rw [insertMany_eq_freeze h,
    Builder.freeze_eq (Builder.soundIn_addMany (Builder.soundIn_ofBag h) e n)]
  rfl

theorem ofBag_erase (h : b.SoundIn c) (e : α) :
    Builder.ofBag (b.erase e).value = ((Builder.ofBag b).removeMany e 1).2 := by
  rw [erase_eq_freeze h,
    Builder.freeze_eq (Builder.soundIn_removeMany (Builder.soundIn_ofBag h) e 1)]
  rfl

omit [Std.TransCmp c.compare] in
theorem freeze_ofBag (h : b.SoundIn c) : (Builder.ofBag b).freeze.value = b :=
  Builder.freeze_eq (Builder.soundIn_ofBag h)

/-! ### Many are one by one -/

theorem insertMany_succ (h : b.SoundIn c) (e : α) (n : Nat) :
    (b.insertMany e (n + 1)).value = ((b.insert e).value.insertMany e n).value := by
  rw [insertMany_eq_freeze h, insertMany_eq_freeze (soundIn_insert h e), Nat.add_comm,
    Builder.addMany_add (Builder.soundIn_ofBag h), ← ofBag_insertMany h]
  rfl

theorem insertMany_eq_iterate (h : b.SoundIn c) (e : α) (n : Nat) :
    (b.insertMany e n).value = (fun b => (insert b e).value)^[n] b := by
  induction n generalizing b with
  | zero => rfl
  | succ n ih =>
    rw [insertMany_succ h, Function.iterate_succ_apply]
    exact ih (soundIn_insert h e)

theorem insertAll_eq_foldl (h : b.SoundIn c) (items : List α) :
    (b.insertAll items).value = items.foldl (fun b e => (b.insert e).value) b := by
  induction items generalizing b with
  | nil => exact freeze_ofBag h
  | cons e items ih =>
    rw [List.foldl_cons, ← ih (soundIn_insert h e)]
    show _ = ((Builder.ofBag (b.insertMany e 1).value).addAll items).freeze.value
    rw [ofBag_insertMany h]
    rfl

theorem eraseAll_eq_foldl (h : b.SoundIn c) (items : List α) :
    (b.eraseAll items).value = items.foldl (fun b e => (b.erase e).value) b := by
  induction items generalizing b with
  | nil => exact freeze_ofBag h
  | cons e items ih =>
    rw [List.foldl_cons, ← ih (soundIn_erase h e)]
    show _ = ((Builder.ofBag (b.erase e).value).removeAll items).freeze.value
    rw [ofBag_erase h]
    rfl

omit [Std.TransCmp c.compare] in
/-- **All ways to the same edit agree.**  On a sound bag, splicing gives the bag that thawing,
editing and freezing gives, and many occurrences or items at once give the bag that one after the
other gives.  In a sound builder counts add up, and a removal in two steps answers for both. -/
theorem edit_paths_agree [Std.TransCmp b.comparator.compare] (hb : b.WellFormed)
    {builder : Builder α} [Std.TransCmp builder.comparator.compare] (hbuilder : builder.WellFormed)
    (e : α) (m n : Nat) (items : List α) :
    ((b.insertMany e n).value = ((Builder.ofBag b).addMany e n).freeze.value ∧
      (b.insertMany e n).value = (fun b => (insert b e).value)^[n] b) ∧
    (b.erase e).value = ((Builder.ofBag b).removeMany e 1).2.freeze.value ∧
    ((b.insertAll items).value = items.foldl (fun b e => (b.insert e).value) b ∧
      (b.eraseAll items).value = items.foldl (fun b e => (b.erase e).value) b) ∧
    builder.addMany e (m + n) = (builder.addMany e m).addMany e n ∧
    (builder.removeMany e (m + n)).2 = ((builder.removeMany e m).2.removeMany e n).2 ∧
    (builder.removeMany e (m + n)).1 =
      ((builder.removeMany e m).1 || ((builder.removeMany e m).2.removeMany e n).1) := by
  have h := hb.soundIn
  have hB := hbuilder.soundIn
  refine ⟨⟨?_, ?_⟩, ?_, ⟨?_, ?_⟩, ?_, ?_, ?_⟩
  · exact insertMany_eq_freeze h e n
  · exact insertMany_eq_iterate h e n
  · exact erase_eq_freeze h e
  · exact insertAll_eq_foldl h items
  · exact eraseAll_eq_foldl h items
  · exact Builder.addMany_add hB e m n
  · exact Builder.removeMany_add hB e m n
  · exact Builder.answer_removeMany_add hB e m n

theorem edit_paths_agree_byTens :
    ∃ (b : Bag Nat) (builder : Builder Nat), b.WellFormed ∧ b.entries = [(12, 2), (25, 1)] ∧
      builder.WellFormed ∧ builder.entries = [(12, 2), (25, 1)] ∧
      (b.insertMany 17 3).value = (fun b => (insert b 17).value)^[3] b ∧
      (builder.removeMany 19 (1 + 2)).1 =
        ((builder.removeMany 19 1).1 || ((builder.removeMany 19 1).2.removeMany 19 2).1) := by
  have hb : (⟨⟨#[12, 25], #[2, 1], .byKey 0 (· / 10), 3⟩⟩ : Bag Nat).WellFormed :=
    ⟨by decide, by decide, by decide, by decide⟩
  have hbuilder : (⟨⟨#[12, 25], #[2, 1], .byKey 0 (· / 10), 3⟩⟩ : Builder Nat).WellFormed := hb
  refine ⟨_, _, hb, by decide, hbuilder, by decide, ?_, ?_⟩
  · exact (edit_paths_agree hb hbuilder 17 0 3 []).1.2
  · exact (edit_paths_agree hb hbuilder 19 1 2 []).2.2.2.2.2

end Bag

end SortedMultiset
