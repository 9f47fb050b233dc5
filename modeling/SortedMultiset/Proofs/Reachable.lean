import Mathlib.Logic.Relation
import SortedMultiset.Proofs.Bag.Split
import SortedMultiset.Proofs.Collecting
import SortedMultiset.Proofs.Snapshot

/-!
# Whatever can be made is sound

A program that works with bags and builders has a *shelf* of them.  Each of its steps puts a new
object on the shelf, made from nothing (`Makes`) or from an object that is there (`Derives`), or
puts the derived object in the place of the one it is derived from, as a builder that is changed, or
consumed by what it builds.  Elements, counts, probes and the orders of new objects are arbitrary,
so long as the orders are total preorders and a foreign source that is taken over is sound.

* `Derives.soundIn`: an object derived from a sound one is sound, in the same order;
* `wellFormed_of_reachable`: every object that ever stands on a shelf is sound.
-/

namespace SortedMultiset

/-- A bag or a builder. -/
inductive Item (β γ : Type) where
  | bag (b : β)
  | builder (b : γ)

variable {α : Type}

def Item.columns : Item (Bag α) (Builder α) → Columns α
  | .bag b => b.toColumns
  | .builder b => b.toColumns

/-- A sorted multiset, in whatever form, that lists ascending runs and knows their total. -/
structure SoundSource {β : Type} [SortedBagLike β α] (source : β) : Prop where
  lawful : Std.TransCmp (SortedBagLike.comparator source).compare
  sorted : SortedRuns (SortedBagLike.comparator source).compare (BagLike.entries source)
  size_eq : BagLike.size source = total (BagLike.entries source)

/-- What can be made from no other bag or builder. -/
inductive Makes : Item (Bag α) (Builder α) → Prop
  | emptyBag (c : Comparator α) : Std.TransCmp c.compare → Makes (.bag (.empty c))
  | collect {s : Settings α} {t : Traced (Bag α)} (items : List α) :
    (∀ c ∈ s.comparator?, Std.TransCmp c.compare) → Bag.collect s items = .ok t →
      Makes (.bag t.value)
  | ofList [Ord α] (label : Nat) (items : List α) :
    Std.TransOrd α → Makes (.bag (Bag.ofList label items).value)
  | ofSorted {β : Type} [SortedBagLike β α] {source : β} {b : Bag α} :
    SoundSource source → Bag.ofSorted source = .ok b → Makes (.bag b)
  | emptyBuilder (c : Comparator α) : Std.TransCmp c.compare → Makes (.builder (.empty c))
  | ofSettings {s : Settings α} {b : Builder α} :
    (∀ c ∈ s.comparator?, Std.TransCmp c.compare) → Builder.ofSettings s = .ok b →
      Makes (.builder b)

/-- What can be made from a bag or a builder. -/
inductive Derives : Item (Bag α) (Builder α) → Item (Bag α) (Builder α) → Prop
  | copy (x : Item (Bag α) (Builder α)) : Derives x x
  | insert (b : Bag α) (e : α) : Derives (.bag b) (.bag (b.insert e).value)
  | insertMany (b : Bag α) (e : α) (n : Nat) : Derives (.bag b) (.bag (b.insertMany e n).value)
  | erase (b : Bag α) (e : α) : Derives (.bag b) (.bag (b.erase e).value)
  | insertAll (b : Bag α) (items : List α) : Derives (.bag b) (.bag (b.insertAll items).value)
  | eraseAll (b : Bag α) (items : List α) : Derives (.bag b) (.bag (b.eraseAll items).value)
  | take (b : Bag α) (n : Nat) : Derives (.bag b) (.bag (b.take n).value)
  | drop (b : Bag α) (n : Nat) : Derives (.bag b) (.bag (b.drop n).value)
  | takeWhile {σ : Type} (b : Bag α) (p : Probe σ α) (state : σ) :
    Derives (.bag b) (.bag ((b.takeWhileM p).run state).1.value)
  | dropWhile {σ : Type} (b : Bag α) (p : Probe σ α) (state : σ) :
    Derives (.bag b) (.bag ((b.dropWhileM p).run state).1.value)
  | spanSelected {σ : Type} (b : Bag α) (p : Probe σ α) (state : σ) :
    Derives (.bag b) (.bag ((b.spanM p).run state).1.value.selected)
  | spanRejected {σ : Type} (b : Bag α) (p : Probe σ α) (state : σ) :
    Derives (.bag b) (.bag ((b.spanM p).run state).1.value.rejected)
  | partitionSelected {σ : Type} (b : Bag α) (p : Probe σ α) (state : σ) :
    Derives (.bag b) (.bag ((b.partitionM p).run state).1.value.selected)
  | partitionRejected {σ : Type} (b : Bag α) (p : Probe σ α) (state : σ) :
    Derives (.bag b) (.bag ((b.partitionM p).run state).1.value.rejected)
  | snapshotBag {b b' : Bag α} : Bag.ofSorted b = .ok b' → Derives (.bag b) (.bag b')
  | snapshotBuilder {b : Builder α} {b' : Bag α} :
    Bag.ofSorted b = .ok b' → Derives (.builder b) (.bag b')
  | thaw (b : Bag α) : Derives (.bag b) (.builder (.ofBag b))
  | add (b : Builder α) (e : α) : Derives (.builder b) (.builder (b.add e))
  | addMany (b : Builder α) (e : α) (n : Nat) : Derives (.builder b) (.builder (b.addMany e n))
  | addAll (b : Builder α) (items : List α) : Derives (.builder b) (.builder (b.addAll items))
  | removeMany (b : Builder α) (e : α) (n : Nat) :
    Derives (.builder b) (.builder (b.removeMany e n).2)
  | freeze (b : Builder α) : Derives (.builder b) (.bag b.freeze.value)

/-- One step of a program on its shelf. -/
inductive Step : List (Item (Bag α) (Builder α)) → List (Item (Bag α) (Builder α)) → Prop
  | make {x : Item (Bag α) (Builder α)} (shelf : List (Item (Bag α) (Builder α))) :
    Makes x → Step shelf (x :: shelf)
  | derive {x y : Item (Bag α) (Builder α)} {shelf : List (Item (Bag α) (Builder α))} :
    x ∈ shelf → Derives x y → Step shelf (y :: shelf)
  | change {x y : Item (Bag α) (Builder α)} (pre post : List (Item (Bag α) (Builder α))) :
    Derives x y → Step (pre ++ x :: post) (pre ++ y :: post)

/-! ### What a step keeps -/

/-- Sound, in the order of some total preorder. -/
def Item.Sound (x : Item (Bag α) (Builder α)) : Prop :=
  ∃ c : Comparator α, Std.TransCmp c.compare ∧ x.columns.SoundIn c

/-- A sound source is taken over as it is. -/
theorem SoundSource.soundIn {β : Type} [SortedBagLike β α] {source : β} {b : Bag α}
    (hs : SoundSource source) (h : Bag.ofSorted source = .ok b) :
    b.SoundIn (SortedBagLike.comparator source) := by
  have hstores := Bag.Stores.of_ofSorted h
  have hsorted := hs.sorted
  have hsize := hstores.size_eq.trans hs.size_eq
  rw [← hstores.entries_eq] at hsorted hsize
  exact Columns.soundIn_iff.mpr ⟨hstores.length_eq, hsorted, hsize, hstores.comparator_eq⟩

theorem soundSource_bag {b : Bag α} {c : Comparator α} [Std.TransCmp c.compare] (h : b.SoundIn c) :
    SoundSource b := by
  obtain ⟨hwf, rfl⟩ := h
  exact ⟨inferInstance, hwf.soundIn.sortedRuns, hwf.total_entries.symm⟩

theorem soundSource_builder {b : Builder α} {c : Comparator α} [Std.TransCmp c.compare]
    (h : b.SoundIn c) : SoundSource b := by
  obtain ⟨hwf, rfl⟩ := h
  exact ⟨inferInstance, hwf.soundIn.sortedRuns, hwf.total_entries.symm⟩

theorem Makes.sound {x : Item (Bag α) (Builder α)} (h : Makes x) : x.Sound := by
  cases h with
  | emptyBag c hc => exact ⟨c, hc, Columns.soundIn_empty c⟩
  | collect items hs h =>
    obtain ⟨c, hc, rfl⟩ := Bag.collect_eq_ok_iff.mp h
    have hlawful := hs c hc
    exact ⟨c, hlawful,
      Builder.soundIn_freeze (Builder.soundIn_addAll (Builder.soundIn_empty c) items)⟩
  | ofList label items hα =>
    exact ⟨.natural label, inferInstance,
      Builder.soundIn_freeze (Builder.soundIn_addAll (Builder.soundIn_empty _) items)⟩
  | ofSorted hs h => exact ⟨_, hs.lawful, hs.soundIn h⟩
  | emptyBuilder c hc => exact ⟨c, hc, Columns.soundIn_empty c⟩
  | ofSettings hs h =>
    obtain ⟨c, hc, rfl⟩ := Builder.ofSettings_eq_ok_iff.mp h
    exact ⟨c, hs c hc, Columns.soundIn_empty c⟩

/-- **What is derived from a sound object is sound**, in the same order. -/
theorem Derives.soundIn {x y : Item (Bag α) (Builder α)} {c : Comparator α} [Std.TransCmp c.compare]
    (h : Derives x y) (hx : x.columns.SoundIn c) : y.columns.SoundIn c := by
  cases h with
  | copy => exact hx
  | insert b e => exact Bag.soundIn_insert hx e
  | insertMany b e n => exact Bag.soundIn_insertMany hx e n
  | erase b e => exact Bag.soundIn_erase hx e
  | insertAll b items => exact Bag.soundIn_insertAll hx items
  | eraseAll b items => exact Bag.soundIn_eraseAll hx items
  | take b n => exact Bag.soundIn_take hx n
  | drop b n => exact Bag.soundIn_drop hx n
  | takeWhile b p state => exact Bag.soundIn_takeWhileM hx p state
  | dropWhile b p state => exact Bag.soundIn_dropWhileM hx p state
  | spanSelected b p state => exact (Bag.soundIn_spanM hx p state).1
  | spanRejected b p state => exact (Bag.soundIn_spanM hx p state).2
  | partitionSelected b p state => exact (Bag.soundIn_partitionM hx p state).1
  | partitionRejected b p state => exact (Bag.soundIn_partitionM hx p state).2
  | snapshotBag h =>
    rw [← hx.comparator_eq]
    exact (soundSource_bag hx).soundIn h
  | snapshotBuilder h =>
    rw [← hx.comparator_eq]
    exact (soundSource_builder hx).soundIn h
  | thaw b => exact hx
  | add b e => exact Builder.soundIn_addMany hx e 1
  | addMany b e n => exact Builder.soundIn_addMany hx e n
  | addAll b items => exact Builder.soundIn_addAll hx items
  | removeMany b e n => exact Builder.soundIn_removeMany hx e n
  | freeze b => exact Builder.soundIn_freeze hx

theorem Derives.sound {x y : Item (Bag α) (Builder α)} (h : Derives x y) (hx : x.Sound) :
    y.Sound := by
  obtain ⟨c, hc, hx⟩ := hx
  exact ⟨c, hc, h.soundIn hx⟩

/-- A step keeps all objects sound. -/
theorem Step.sound {shelf shelf' : List (Item (Bag α) (Builder α))} (h : Step shelf shelf')
    (hshelf : ∀ x ∈ shelf, x.Sound) : ∀ x ∈ shelf', x.Sound := by
  intro z hz
  cases h with
  | make shelf hx =>
    rcases List.mem_cons.mp hz with rfl | hz
    · exact hx.sound
    · exact hshelf z hz
  | derive hx hxy =>
    rcases List.mem_cons.mp hz with rfl | hz
    · exact hxy.sound (hshelf _ hx)
    · exact hshelf z hz
  | change pre post hxy =>
    rcases List.mem_append.mp hz with hz | hz
    · exact hshelf z (List.mem_append_left _ hz)
    rcases List.mem_cons.mp hz with rfl | hz
    · exact hxy.sound (hshelf _ (by simp))
    · exact hshelf z (by simp [hz])

/-- A run from an empty shelf keeps all objects sound. -/
theorem sound_of_run {shelf : List (Item (Bag α) (Builder α))}
    (h : Relation.ReflTransGen Step [] shelf) : ∀ x ∈ shelf, x.Sound := by
  induction h with
  | refl => simp
  | tail _ hstep ih => exact hstep.sound ih

/-- **Every bag and builder that can be made is sound.**  After any steps from an empty shelf, the
columns of every object have one length, the elements ascend strictly pairwise, the counts are
positive and the cached total is exact (`Columns.WellFormed`).  So every bag passes its check, and
to have no occurrences is to have no elements. -/
theorem wellFormed_of_reachable {shelf : List (Item (Bag α) (Builder α))}
    (h : Relation.ReflTransGen Step [] shelf) :
    (∀ b : Bag α, .bag b ∈ shelf →
      b.WellFormed ∧ b.verify = .ok () ∧ BagLike.isEmpty b = b.isEmpty) ∧
    ∀ b : Builder α, .builder b ∈ shelf →
      b.WellFormed ∧ b.isEmpty = b.elements.isEmpty := by
  constructor
  · intro b hb
    obtain ⟨c, hc, hsound⟩ := sound_of_run h _ hb
    obtain ⟨hwf, rfl⟩ : b.SoundIn c := hsound
    exact ⟨hwf, Bag.verify_eq_ok_iff.mpr hwf, hwf.soundIn.isEmpty_eq⟩
  · intro b hb
    obtain ⟨c, hc, hsound⟩ := sound_of_run h _ hb
    exact ⟨hsound.wellFormed, hsound.isEmpty_eq⟩

theorem wellFormed_of_reachable_byTens :
    Relation.ReflTransGen Step []
      [.bag ((Bag.empty (.byKey 0 (· / 10))).insertMany 12 2).value,
        .bag (Bag.empty (.byKey 0 (· / 10) : Comparator Nat))] ∧
    ((Bag.empty (.byKey 0 (· / 10) : Comparator Nat)).insertMany 12 2).value.WellFormed := by
  have hmake : Step [] [.bag (Bag.empty (.byKey 0 (· / 10) : Comparator Nat))] :=
    .make [] (.emptyBag _ inferInstance)
  have hrun := Relation.ReflTransGen.tail (.single hmake)
    (.derive (List.mem_singleton_self _) (.insertMany _ 12 2))
  exact ⟨hrun, ((wellFormed_of_reachable hrun).1 _ (List.mem_cons_self ..)).1⟩

end SortedMultiset
