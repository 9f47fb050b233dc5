import SortedMultiset.Proofs.Batching
import SortedMultiset.Proofs.ClassMap
import SortedMultiset.Proofs.History

/-!
# Bags and builders are finite maps

Two kits play the same histories: `bagKit`, the bags and builders of a comparator, and `classKit`,
the finite maps from its classes to what there is of them.  `Represents` relates the columns of a
bag or a builder to a map: the columns are sound and their runs list the map.  It holds of empty
objects and is kept by every operation (`simulates_bagKit`).

`run_simulates`: whatever is played, every bag and builder shows its map in all that can be asked of
it, and all answers agree.
-/

namespace SortedMultiset

variable {α : Type}

/-! ### The two kits -/

/-- Bags and builders in the order of a comparator. -/
def bagKit (c : Comparator α) : Kit α (Bag α) (Builder α) where
  emptyBag := .empty c
  emptyBuilder := .empty c
  edit
    | .insert e, b => (b.insert e).value
    | .insertMany e n, b => (b.insertMany e n).value
    | .erase e, b => (b.erase e).value
    | .insertAll items, b => (b.insertAll items).value
    | .eraseAll items, b => (b.eraseAll items).value
  fill
    | .add e, b => (none, b.add e)
    | .addMany e n, b => (none, b.addMany e n)
    | .addAll items, b => (none, b.addAll items)
    | .removeMany e n, b => (some (b.removeMany e n).1, (b.removeMany e n).2)
  thaw := .ofBag
  freeze b := b.freeze.value

/-- Finite maps from classes to what there is of them; a map serves as bag and as builder. -/
def classKit (cmp : α → α → Ordering) [Std.TransCmp cmp] :
    Kit α (ClassMap cmp) (ClassMap cmp) where
  emptyBag := ∅
  emptyBuilder := ∅
  edit
    | .insert e, m => m.add e 1
    | .insertMany e n, m => m.add e n
    | .erase e, m => (m.remove e 1).2
    | .insertAll items, m => m.addAll items
    | .eraseAll items, m => m.removeAll items
  fill
    | .add e, m => (none, m.add e 1)
    | .addMany e n, m => (none, m.add e n)
    | .addAll items, m => (none, m.addAll items)
    | .removeMany e n, m => (some (m.remove e n).1, (m.remove e n).2)
  thaw m := m
  freeze m := m

/-! ### Representation -/

variable {c : Comparator α} [Std.TransCmp c.compare]

/-- Sound columns in the order of a comparator, whose runs list a map. -/
structure Represents (t : Columns α) (m : ClassMap c.compare) : Prop where
  soundIn : t.SoundIn c
  lists : m.Lists t.entries

/-- All that can be asked of columns is answered as the map says. -/
structure Shows (t : Columns α) (m : ClassMap c.compare) : Prop where
  wellFormed : t.WellFormed
  comparator_eq : t.comparator = c
  count_eq : ∀ e, t.count e = m.count e
  contains_eq : ∀ e, t.contains e = decide (EqClass.of c.compare e ∈ m)
  size_eq : t.size = m.size
  distinct_eq : t.distinct = m.distinct
  /-- The runs are those in the map, each once; the order is that of the elements. -/
  entries_eq : (t.entries : Multiset (α × Nat)) = m.entries.map fun s => s.2.run

namespace Represents

variable {t : Columns α} {m : ClassMap c.compare} {bag : Bag α} {builder : Builder α}

theorem shows (h : Represents t m) : Shows t m where
  wellFormed := h.soundIn.wellFormed
  comparator_eq := h.soundIn.comparator_eq
  count_eq e := (h.soundIn.count_eq e).trans (h.lists.countRun_eq e)
  contains_eq e := (h.soundIn.contains_eq e).trans (h.lists.isSome_eq e)
  size_eq := h.soundIn.total_entries.symm.trans h.lists.total_eq
  distinct_eq := h.soundIn.elements_size.trans h.lists.length_eq
  entries_eq := h.lists.coe_eq

theorem empty : Represents (Columns.empty c) (∅ : ClassMap c.compare) :=
  ⟨Columns.soundIn_empty c, ClassMap.lists_empty⟩

/-! ### Builders -/

theorem addMany (h : Represents builder.toColumns m) (e : α) (n : Nat) :
    Represents (builder.addMany e n).toColumns (m.add e n) := by
  refine ⟨Builder.soundIn_addMany h.soundIn e n, ?_⟩
  rw [Builder.entries_addMany h.soundIn]
  exact h.lists.add e n

theorem removeMany (h : Represents builder.toColumns m) (e : α) (n : Nat) :
    Represents (builder.removeMany e n).2.toColumns (m.remove e n).2 := by
  refine ⟨Builder.soundIn_removeMany h.soundIn e n, ?_⟩
  rw [Builder.entries_removeMany h.soundIn]
  exact h.lists.remove e n

theorem answer_removeMany (h : Represents builder.toColumns m) (e : α) (n : Nat) :
    (builder.removeMany e n).1 = (m.remove e n).1 := by
  rw [Builder.answer_removeMany h.soundIn, ClassMap.answer_remove, h.lists.findRun_eq]

theorem addAll (h : Represents builder.toColumns m) (items : List α) :
    Represents (builder.addAll items).toColumns (m.addAll items) := by
  unfold Builder.addAll ClassMap.addAll
  induction items generalizing builder m with
  | nil => exact h
  | cons e items ih => exact ih (h.addMany e 1)

theorem removeAll (h : Represents builder.toColumns m) (items : List α) :
    Represents (builder.removeAll items).toColumns (m.removeAll items) := by
  unfold Builder.removeAll ClassMap.removeAll
  induction items generalizing builder m with
  | nil => exact h
  | cons e items ih => exact ih (h.removeMany e 1)

theorem freeze (h : Represents builder.toColumns m) :
    Represents builder.freeze.value.toColumns m := by
  rw [Builder.freeze_eq h.soundIn]
  exact h

/-! ### Bags -/

theorem thaw (h : Represents bag.toColumns m) : Represents (Builder.ofBag bag).toColumns m := h

theorem insertMany (h : Represents bag.toColumns m) (e : α) (n : Nat) :
    Represents (bag.insertMany e n).value.toColumns (m.add e n) := by
  rw [Bag.insertMany_eq_freeze h.soundIn]
  exact (h.thaw.addMany e n).freeze

theorem erase (h : Represents bag.toColumns m) (e : α) :
    Represents (bag.erase e).value.toColumns (m.remove e 1).2 := by
  rw [Bag.erase_eq_freeze h.soundIn]
  exact (h.thaw.removeMany e 1).freeze

theorem insertAll (h : Represents bag.toColumns m) (items : List α) :
    Represents (bag.insertAll items).value.toColumns (m.addAll items) :=
  (h.thaw.addAll items).freeze

theorem eraseAll (h : Represents bag.toColumns m) (items : List α) :
    Represents (bag.eraseAll items).value.toColumns (m.removeAll items) :=
  (h.thaw.removeAll items).freeze

end Represents

/-! ### Histories -/

/-- Bags and builders keep representing their maps. -/
theorem simulates_bagKit (c : Comparator α) [Std.TransCmp c.compare] :
    (bagKit c).Simulates (classKit c.compare) (fun b m => Represents b.toColumns m)
      (fun b m => Represents b.toColumns m) where
  emptyBag := .empty
  emptyBuilder := .empty
  edit := by
    intro f b m h
    cases f with
    | insert e => exact h.insertMany e 1
    | insertMany e n => exact h.insertMany e n
    | erase e => exact h.erase e
    | insertAll items => exact h.insertAll items
    | eraseAll items => exact h.eraseAll items
  fill := by
    intro f b m h
    cases f with
    | add e => exact ⟨rfl, h.addMany e 1⟩
    | addMany e n => exact ⟨rfl, h.addMany e n⟩
    | addAll items => exact ⟨rfl, h.addAll items⟩
    | removeMany e n => exact ⟨congrArg some (h.answer_removeMany e n), h.removeMany e n⟩
  thaw _ _ h := h
  freeze _ _ h := h.freeze

/-- **Bags and builders simulate finite maps from classes to stocks.**  After any history of
operations, played from an empty shelf by the bags and builders of a comparator and by the finite
maps from its classes, the shelves hold corresponding objects, every bag and builder shows its map,
and all answers were the same. -/
theorem run_simulates (c : Comparator α) [Std.TransCmp c.compare] (ops : List (Op α)) :
    List.Forall₂ (Item.Rel (fun b m => Shows (c := c) b.toColumns m)
        (fun b m => Shows (c := c) b.toColumns m))
      ((bagKit c).run ops).shelf ((classKit c.compare).run ops).shelf ∧
    ((bagKit c).run ops).answers = ((classKit c.compare).run ops).answers := by
  obtain ⟨hshelf, hanswers⟩ := (simulates_bagKit c).run ops
  refine ⟨hshelf.imp ?_, hanswers⟩
  rintro x y (hb | hb)
  · exact .bag hb.shows
  · exact .builder hb.shows

/-- Numbers with the same tens are alike: 19 is removed from what was added as 12 and 17. -/
theorem run_simulates_byTens :
    ((classKit (Comparator.byKey 0 (· / 10) : Comparator Nat).compare).run
      [.emptyBuilder, .fill 0 (.addMany 12 2), .fill 0 (.add 17), .fill 0 (.removeMany 40 1),
        .fill 0 (.removeMany 19 1), .freeze 0, .edit 0 (.insert 25)]).answers =
      [none, none, some false, some true] :=
  (run_simulates _ _).2.symm.trans (by decide +kernel)

end SortedMultiset
