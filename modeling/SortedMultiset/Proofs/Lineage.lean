import SortedMultiset.Proofs.Reachable

/-!
# The comparator of a lineage

A bag or builder that is derived from another has its comparator: not one that orders alike, but the
same object.  Each operation makes its result in several ways, as the bag itself, as the empty bag, as
columns that are put together or as a builder that is frozen, and each of these is handed the comparator
of what it is made from (`Derives.comparator_eq`).

No law of the comparator is used, and nothing is asked of the bags: a snapshot that took over lies keeps
the comparator of its source all the same.

* `sameObject_of_derived`: whatever derives from what was made with a comparator has that very one.
-/

namespace SortedMultiset

variable {σ α : Type} {c : Comparator α}

namespace Builder

theorem comparator_addRuns (b : Builder α) (runs : List (α × Nat)) :
    (b.addRuns runs).comparator = b.comparator :=
  List.foldlRecOn (motive := fun b' : Builder α => b'.comparator = b.comparator) runs _ rfl
    fun b' h r _ => (comparator_addMany b' r.1 r.2).trans h

theorem comparator_addAll (b : Builder α) (items : List α) :
    (b.addAll items).comparator = b.comparator :=
  List.foldlRecOn (motive := fun b' : Builder α => b'.comparator = b.comparator) items _ rfl
    fun b' h x _ => (comparator_addMany b' x 1).trans h

theorem comparator_removeAll (b : Builder α) (items : List α) :
    (b.removeAll items).comparator = b.comparator :=
  List.foldlRecOn (motive := fun b' : Builder α => b'.comparator = b.comparator) items _ rfl
    fun b' h x _ => (comparator_removeMany b' x 1).trans h

end Builder

namespace Bag

variable (b : Bag α)

theorem comparator_insertMany (e : α) (n : Nat) :
    (b.insertMany e n).value.comparator = b.comparator := by
  unfold insertMany
  split
  · rfl
  · split <;> rfl

theorem comparator_erase (e : α) : (b.erase e).value.comparator = b.comparator := by
  unfold erase
  split
  · rfl
  · split <;> rfl

theorem comparator_insertAll (items : List α) :
    (b.insertAll items).value.comparator = b.comparator := by
  rw [insertAll, Builder.comparator_freeze, Builder.comparator_addAll]
  rfl

theorem comparator_eraseAll (items : List α) :
    (b.eraseAll items).value.comparator = b.comparator := by
  rw [eraseAll, Builder.comparator_freeze, Builder.comparator_removeAll]
  rfl

theorem comparator_runsBuilder (lo hi : Nat) : (b.runsBuilder lo hi).comparator = b.comparator :=
  Builder.comparator_addRuns _ _

theorem comparator_slice (lo hi : Nat) : (b.slice lo hi).value.comparator = b.comparator := by
  rw [slice, Builder.comparator_freeze, comparator_runsBuilder]

theorem comparator_take (n : Nat) : (b.take n).value.comparator = b.comparator := by
  unfold take
  split_ifs
  · rfl
  · rfl
  -- columns that lie about their size may have no slot to cut
  · dsimp only
    split
    · rw [Builder.comparator_freeze, Builder.comparator_addMany, comparator_runsBuilder]
    · rw [Builder.comparator_freeze, comparator_runsBuilder]

theorem comparator_drop (n : Nat) : (b.drop n).value.comparator = b.comparator := by
  unfold drop
  split_ifs
  · rfl
  · rfl
  · dsimp only
    split
    · rw [Builder.comparator_freeze]
      rfl
    · rw [Builder.comparator_freeze, Builder.comparator_addRuns, Builder.comparator_addMany]
      rfl

/-- Both builders keep their comparators, whatever the probe answers. -/
theorem comparator_distribute (p : Probe σ α) (runs : List (α × Nat)) (selected rejected : Builder α)
    (state : σ) :
    ((distribute p runs selected rejected).run state).1.1.comparator = selected.comparator ∧
      ((distribute p runs selected rejected).run state).1.2.comparator = rejected.comparator := by
  rw [distribute_eq]
  exact ⟨Builder.comparator_addRuns _ _, Builder.comparator_addRuns _ _⟩

theorem comparator_partitionM (p : Probe σ α) (state : σ) :
    ((b.partitionM p).run state).1.value.selected.comparator = b.comparator ∧
      ((b.partitionM p).run state).1.value.rejected.comparator = b.comparator := by
  obtain ⟨hselected, hrejected⟩ :=
    comparator_distribute p b.entries (.empty b.comparator) (.empty b.comparator) state
  exact ⟨(Builder.comparator_freeze _).trans hselected,
    (Builder.comparator_freeze _).trans hrejected⟩

end Bag

/-! ### Lineages -/

/-- What is made with a comparator, and not from another bag or builder. -/
inductive MadeWith (c : Comparator α) : Item (Bag α) (Builder α) → Prop
  | emptyBag : MadeWith c (.bag (.empty c))
  | emptyBuilder : MadeWith c (.builder (.empty c))
  | ofSettings {s : Settings α} {b : Builder α} :
    s.comparator? = some c → Builder.ofSettings s = .ok b → MadeWith c (.builder b)
  | collect {s : Settings α} {t : Traced (Bag α)} (items : List α) :
    s.comparator? = some c → Bag.collect s items = .ok t → MadeWith c (.bag t.value)
  | ofSorted {β : Type} [SortedBagLike β α] {source : β} {b : Bag α} :
    SortedBagLike.comparator source = c → Bag.ofSorted source = .ok b → MadeWith c (.bag b)

theorem MadeWith.comparator_eq {x : Item (Bag α) (Builder α)} (h : MadeWith c x) :
    x.columns.comparator = c := by
  cases h with
  | emptyBag => rfl
  | emptyBuilder => rfl
  | ofSettings hs h =>
    obtain ⟨d, hd, rfl⟩ := Builder.ofSettings_eq_ok_iff.mp h
    exact Option.some.inj (hd.symm.trans hs)
  | collect items hs h =>
    obtain ⟨d, hd, rfl⟩ := Bag.collect_eq_ok_iff.mp h
    have hcomparator : ((Builder.empty d).addAll items).freeze.value.comparator = d :=
      (Builder.comparator_freeze _).trans (Builder.comparator_addAll _ items)
    exact hcomparator.trans (Option.some.inj (hd.symm.trans hs))
  | ofSorted hc h => exact (Bag.Stores.of_ofSorted h).comparator_eq.trans hc

/-- **What is derived has the comparator** of what it is derived from. -/
theorem Derives.comparator_eq {x y : Item (Bag α) (Builder α)} (h : Derives x y) :
    y.columns.comparator = x.columns.comparator := by
  cases h with
  | copy => rfl
  | insert b e => exact b.comparator_insertMany e 1
  | insertMany b e n => exact b.comparator_insertMany e n
  | erase b e => exact b.comparator_erase e
  | insertAll b items => exact b.comparator_insertAll items
  | eraseAll b items => exact b.comparator_eraseAll items
  | take b n => exact b.comparator_take n
  | drop b n => exact b.comparator_drop n
  | takeWhile b p state => exact b.comparator_slice _ _
  | dropWhile b p state => exact b.comparator_slice _ _
  | spanSelected b p state => exact b.comparator_slice _ _
  | spanRejected b p state => exact b.comparator_slice _ _
  | partitionSelected b p state => exact (b.comparator_partitionM p state).1
  | partitionRejected b p state => exact (b.comparator_partitionM p state).2
  | snapshotBag h => exact (Bag.Stores.of_ofSorted h).comparator_eq
  | snapshotBuilder h => exact (Bag.Stores.of_ofSorted h).comparator_eq
  | thaw b => rfl
  | add b e => exact b.comparator_addMany e 1
  | addMany b e n => exact b.comparator_addMany e n
  | addAll b items => exact b.comparator_addAll items
  | removeMany b e n => exact b.comparator_removeMany e n
  | freeze b => exact b.comparator_freeze

/-- All of a lineage has one comparator. -/
theorem comparator_of_lineage {x y : Item (Bag α) (Builder α)}
    (h : Relation.ReflTransGen Derives x y) : y.columns.comparator = x.columns.comparator := by
  induction h with
  | refl => rfl
  | tail _ hstep ih => exact hstep.comparator_eq.trans ih

/-- **The comparator is handed on.**  After any number of operations, in whatever branches they end, a
bag or builder that descends from what was made with a comparator has this comparator, the same
object. -/
theorem sameObject_of_derived {x y : Item (Bag α) (Builder α)} (hx : MadeWith c x)
    (h : Relation.ReflTransGen Derives x y) :
    y.columns.comparator = c ∧ y.columns.comparator.sameObject c = true := by
  have hcomparator : y.columns.comparator = c :=
    (comparator_of_lineage h).trans hx.comparator_eq
  refine ⟨hcomparator, ?_⟩
  rw [hcomparator]
  exact c.sameObject_self

/-- A builder that is emptied again, frozen to the empty bag, cut and filled, in an order that another
object gives as well. -/
theorem sameObject_of_derived_byTens :
    let c : Comparator Nat := (Comparator.byKey 0 (· / 10)).reversed 7
    let alike : Comparator Nat := (Comparator.byKey 0 (· / 10)).reversed 8
    let emptied : Bag Nat := ((Builder.empty c).addMany 12 2 |>.removeMany 19 5).2.freeze.value
    let filled : Bag Nat := ((emptied.drop 1).value.insertMany 25 3).value
    emptied.entries = [] ∧ filled.entries = [(25, 3)] ∧
      Relation.ReflTransGen Derives (.builder (.empty c)) (.bag filled) ∧
      filled.comparator.sameObject c = true ∧ filled.comparator.sameObject alike = false := by
  intro c alike emptied filled
  have hlineage : Relation.ReflTransGen Derives (.builder (.empty c)) (.bag filled) :=
    .tail (.tail (.tail (.tail (.single (.addMany _ 12 2)) (.removeMany _ 19 5)) (.freeze _))
      (.drop _ 1)) (.insertMany _ 25 3)
  obtain ⟨hcomparator, hsame⟩ := sameObject_of_derived .emptyBuilder hlineage
  refine ⟨by decide +kernel, by decide +kernel, hlineage, hsame, ?_⟩
  show filled.toColumns.comparator.sameObject alike = false
  rw [show filled.toColumns.comparator = c from hcomparator]
  decide

end SortedMultiset
