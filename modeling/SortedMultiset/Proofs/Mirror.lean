import SortedMultiset.Proofs.Bag.Ordinals
import SortedMultiset.Proofs.Refinement
import SortedMultiset.Proofs.Runs.Reverse
import SortedMultiset.Proofs.Tally

/-!
# Bags in the opposite order

A `Recipe` tells how a bag is made, but not in which order: from nothing or from items, and then by
edits.  Followed once in an order and once in the opposite one, it finds every element at another slot,
splices elsewhere and cuts elsewhere.  Still the runs of one bag are those of the other, backwards
(`Bag.Mirrors`): they are to begin with, and every edit keeps them so (`Bag.Mirrors.edit`).

All that can be asked by ordinal follows from that, since the expanded sequences are each other's reverse
(`Bag.Mirrors.toList_eq`).  Counts and equality do not depend on the order at all.  The ordinal of an
element is the number of lesser ones, and what is less in one order is neither less nor equal in the
other (`countP_lt_add_gt`).

* `Bag.reversal_mirrors`: both bags made by one recipe, and how they answer.
-/

namespace SortedMultiset

variable {α : Type} {cmp : α → α → Ordering} {e : α} {n i label : Nat}

/-- How a bag is made in whatever order. -/
inductive Recipe (α : Type) where
  /-- The bag without elements. -/
  | empty
  /-- The bag of the items. -/
  | collect (capacity : Nat) (items : List α)
  /-- The bag that an edit makes of another. -/
  | edit (f : BagEdit α) (recipe : Recipe α)

/-- Follows a recipe in the order of a comparator. -/
def Recipe.make (c : Comparator α) : Recipe α → Except Error (Bag α)
  | empty => .ok (.empty c)
  | collect capacity items => do
    let t ← Bag.collect { comparator? := some c, capacity } items
    return t.value
  | edit f recipe => do
    let b ← recipe.make c
    return (bagKit c).edit f b

/-- Elements are less than a given one, like it, or greater. -/
theorem countP_lt_add_gt (cmp : α → α → Ordering) [Std.OrientedCmp cmp] (xs : List α) (e : α) :
    xs.countP (fun x => cmp x e == .lt) + countLike cmp xs e + xs.countP (fun x => cmp e x == .lt) =
      xs.length := by
  induction xs with
  | nil => rfl
  | cons x xs ih =>
    have hswap : cmp e x = (cmp x e).swap := Std.OrientedCmp.eq_swap
    rw [List.countP_cons, List.countP_cons, countLike_cons, List.length_cons, ← ih, hswap]
    cases cmp x e <;> simp <;> omega

theorem countLike_opposite [Std.OrientedCmp cmp] (xs : List α) (e : α) :
    countLike (fun a b => cmp b a) xs e = countLike cmp xs e := by
  unfold countLike
  congr 1
  funext x
  rw [Bool.eq_iff_iff, beq_iff_eq, beq_iff_eq, Std.OrientedCmp.eq_comm]

namespace Bag

variable {b m : Bag α} {c : Comparator α} [Std.TransCmp c.compare]

/-- A sound bag and one in the opposite order, with the same runs backwards. -/
structure Mirrors (c : Comparator α) (label : Nat) (b m : Bag α) : Prop where
  soundIn : b.SoundIn c
  mirror_soundIn : m.SoundIn (c.reversed label)
  entries_eq : m.entries = b.entries.reverse

namespace Mirrors

/-! ### What keeps bags mirrored -/

omit [Std.TransCmp c.compare] in
protected theorem empty : Mirrors c label (empty c) (empty (c.reversed label)) :=
  ⟨soundIn_empty c, soundIn_empty (c.reversed label), rfl⟩

theorem collect (items : List α) :
    Mirrors c label ((Builder.empty c).addAll items).freeze.value
      ((Builder.empty (c.reversed label)).addAll items).freeze.value := by
  refine ⟨Builder.soundIn_freeze (Builder.soundIn_addAll (Builder.soundIn_empty _) items),
    Builder.soundIn_freeze (Builder.soundIn_addAll (Builder.soundIn_empty _) items), ?_⟩
  rw [Builder.entries_freeze, Builder.entries_freeze, entries_addAll_empty, entries_addAll_empty]
  exact addItems_reverse .nil items

theorem insertMany (h : Mirrors c label b m) (e : α) (n : Nat) :
    Mirrors c label (b.insertMany e n).value (m.insertMany e n).value := by
  refine ⟨soundIn_insertMany h.soundIn e n, soundIn_insertMany h.mirror_soundIn e n, ?_⟩
  rw [entries_insertMany h.soundIn, entries_insertMany h.mirror_soundIn, h.entries_eq]
  exact addRun_reverse h.soundIn.sortedRuns e n

theorem erase (h : Mirrors c label b m) (e : α) :
    Mirrors c label (b.erase e).value (m.erase e).value := by
  refine ⟨soundIn_erase h.soundIn e, soundIn_erase h.mirror_soundIn e, ?_⟩
  rw [entries_erase h.soundIn, entries_erase h.mirror_soundIn, h.entries_eq]
  exact removeRun_reverse h.soundIn.sortedRuns e 1

theorem insertAll (h : Mirrors c label b m) (items : List α) :
    Mirrors c label (b.insertAll items).value (m.insertAll items).value := by
  refine ⟨soundIn_insertAll h.soundIn items, soundIn_insertAll h.mirror_soundIn items, ?_⟩
  rw [entries_insertAll h.soundIn, entries_insertAll h.mirror_soundIn, h.entries_eq]
  exact addItems_reverse h.soundIn.sortedRuns items

theorem eraseAll (h : Mirrors c label b m) (items : List α) :
    Mirrors c label (b.eraseAll items).value (m.eraseAll items).value := by
  refine ⟨soundIn_eraseAll h.soundIn items, soundIn_eraseAll h.mirror_soundIn items, ?_⟩
  rw [entries_eraseAll h.soundIn, entries_eraseAll h.mirror_soundIn, h.entries_eq]
  exact removeItems_reverse h.soundIn.sortedRuns items

/-- **An edit keeps bags mirrored**, wherever it finds its elements. -/
theorem edit (h : Mirrors c label b m) (f : BagEdit α) :
    Mirrors c label ((bagKit c).edit f b) ((bagKit (c.reversed label)).edit f m) := by
  cases f with
  | insert e => exact h.insertMany e 1
  | insertMany e n => exact h.insertMany e n
  | erase e => exact h.erase e
  | insertAll items => exact h.insertAll items
  | eraseAll items => exact h.eraseAll items

/-- **One recipe makes mirrored bags** in opposite orders. -/
theorem make (c : Comparator α) [Std.TransCmp c.compare] (label : Nat) (recipe : Recipe α) :
    ∃ b m, recipe.make c = .ok b ∧ recipe.make (c.reversed label) = .ok m ∧ Mirrors c label b m := by
  induction recipe with
  | empty => exact ⟨_, _, rfl, rfl, .empty⟩
  | collect capacity items => exact ⟨_, _, rfl, rfl, .collect items⟩
  | edit f recipe ih =>
    obtain ⟨b, m, hb, hm, h⟩ := ih
    refine ⟨_, _, ?_, ?_, h.edit f⟩
    · rw [Recipe.make, hb]
      rfl
    · rw [Recipe.make, hm]
      rfl

/-! ### What mirrored bags answer -/

variable (h : Mirrors c label b m)
include h

omit [Std.TransCmp c.compare] in
theorem toList_eq : m.toList = b.toList.reverse := by
  rw [toList, h.entries_eq, expand_reverse]
  rfl

omit [Std.TransCmp c.compare] in
theorem size_eq : m.size = b.size := by
  rw [← length_toList h.mirror_soundIn.wellFormed, h.toList_eq, List.length_reverse,
    length_toList h.soundIn.wellFormed]

theorem count_eq (e : α) : m.count e = b.count e := by
  rw [count_eq_countLike h.mirror_soundIn, count_eq_countLike h.soundIn, h.toList_eq,
    countLike_perm (List.reverse_perm _)]
  exact countLike_opposite _ e

theorem contains_eq (e : α) : m.contains e = b.contains e := by
  rw [h.mirror_soundIn.contains_eq, h.soundIn.contains_eq, h.entries_eq]
  exact congrArg Option.isSome (h.soundIn.sortedRuns.findRun_reverse e)

theorem equals : BagLike.equals m b = true ∧ BagLike.equals b m = true := by
  have hb : Faithful (Quotient.mk (alike c.compare)) b :=
    faithful_class ⟨h.soundIn.wellFormed, by rw [h.soundIn.comparator_eq]; infer_instance,
      fun x y => by rw [h.soundIn.comparator_eq]; rfl⟩
  have hm : Faithful (Quotient.mk (alike c.compare)) m :=
    faithful_class ⟨h.mirror_soundIn.wellFormed,
      by rw [h.mirror_soundIn.comparator_eq]; infer_instance,
      fun x y => by rw [h.mirror_soundIn.comparator_eq]; exact Std.OrientedCmp.eq_comm⟩
  exact ⟨(hm.equals_iff_count hb).mpr h.count_eq,
    (hb.equals_iff_count hm).mpr fun e => (h.count_eq e).symm⟩

omit [Std.TransCmp c.compare] in
/-- **The same place from the other end** holds the same element. -/
theorem get_eq (hi : i < b.size) :
    ∃ e, m.get i = .ok e ∧ b.get (b.size - 1 - i) = .ok e := by
  have hlength := length_toList h.soundIn.wellFormed
  have hplace : m.toList[i]? = b.toList[b.size - 1 - i]? := by
    rw [h.toList_eq, List.getElem?_reverse (by rw [hlength]; exact hi), hlength]
  obtain ⟨e, he, hget⟩ := get_of_lt h.mirror_soundIn (i := i) (by rw [h.size_eq]; exact hi)
  refine ⟨e, hget, (get_eq_ok_iff h.soundIn).mpr ?_⟩
  rw [← hplace, he]

/-- **The ordinal of an element** counts what is greater in the other order. -/
theorem indexOf_eq (he : b.contains e = true) :
    ∃ i, b.indexOf e = some i ∧ i + b.count e ≤ b.size ∧
      m.indexOf e = some (b.size - i - b.count e) := by
  have hsum := countP_lt_add_gt c.compare b.toList e
  rw [length_toList h.soundIn.wellFormed, ← count_eq_countLike h.soundIn] at hsum
  have hgreater : m.toList.countP (fun x => (c.reversed label).compare x e == .lt) =
      b.toList.countP fun x => c.compare e x == .lt := by
    rw [h.toList_eq, List.countP_reverse]
    rfl
  refine ⟨_, by rw [Bag.indexOf_eq h.soundIn, if_pos he], by omega, ?_⟩
  rw [Bag.indexOf_eq h.mirror_soundIn, h.contains_eq, if_pos he, hgreater]
  exact congrArg some (by omega)

/-- **The last elements** are the first of the other bag. -/
theorem drop_take (n : Nat) :
    Mirrors c label (b.take (b.size - n)).value (m.drop n).value := by
  have htake := soundIn_take h.soundIn (b.size - n)
  have hdrop := soundIn_drop h.mirror_soundIn n
  refine ⟨htake, hdrop, hdrop.sortedRuns.ext_expand htake.sortedRuns.reverse ?_⟩
  have hlength := length_toList h.soundIn.wellFormed
  calc expand (m.drop n).value.entries = b.toList.reverse.drop n := by
        rw [← h.toList_eq]
        exact toList_drop h.mirror_soundIn n
    _ = (b.toList.take (b.size - n)).reverse := by
        rw [List.drop_reverse, hlength]
    _ = expand (b.take (b.size - n)).value.entries.reverse := by
        rw [← toList_take h.soundIn, expand_reverse]
        rfl

end Mirrors

end Bag

end SortedMultiset
