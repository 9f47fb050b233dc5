import SortedMultiset.Proofs.Bag.Slice
import SortedMultiset.Proofs.Checked.Split
import SortedMultiset.Proofs.Collecting

/-!
# What the records say

A record is written before the bag that it speaks of is there.  An edit of one element reports a splice
from where its search ended, and a builder that is frozen reports its own running total, while the bag
adds up its counts anew.  That the records are true of the bags is a statement about both.

* An edit of one element splices exactly when it changes the number of slots
  (`Bag.insertMany_cases`, `Bag.erase_cases`), and the slot it reports is the number of lesser elements.
* A frozen builder gives its own columns, because its total has kept up with its counts
  (`Columns.Balanced`), whatever the comparator is (`Builder.frozenOnce`).
* Along any run of edits of one element the numbers of slots can be told from the records
  (`Bag.editAll_distinct`): what the edits do to the slots, one by one, is what they report.

`records_truthful` says it of all operations.
-/

namespace SortedMultiset

variable {σ α : Type}

namespace Record

def isInsertion : Record → Bool
  | spliceInsert _ _ => true
  | _ => false

def isRemoval : Record → Bool
  | spliceRemove _ _ => true
  | _ => false

end Record

/-! ### Freezing -/

/-- The record of a builder that is frozen, with the numbers of the bag that it turns out to be. -/
def Bag.freezing (b : Bag α) : Record := .freezing b.distinct b.size

/-- Two builders are frozen, that of the selected part first. -/
def Split.freezings (s : Split α) : List Record := [s.selected.freezing, s.rejected.freezing]

/-- One builder was frozen on the way to a bag, and nothing else is reported. -/
def FrozenOnce (t : Traced (Bag α)) : Prop := t.records = [t.value.freezing]

/-- **A builder reports the bag that it freezes to.** -/
theorem Builder.frozenOnce {b : Builder α} (h : b.Balanced) : FrozenOnce b.freeze := by
  rw [FrozenOnce, Bag.freezing, records_freeze, freeze_eq_of_balanced h]

namespace Bag

variable {b : Bag α} {c : Comparator α} {n : Nat}

theorem balanced_runsBuilder (b : Bag α) (lo hi : Nat) : (b.runsBuilder lo hi).Balanced :=
  Builder.balanced_addRuns (Builder.balanced_empty _) _

theorem frozenOnce_slice (b : Bag α) (lo hi : Nat) : FrozenOnce (b.slice lo hi) :=
  Builder.frozenOnce (b.balanced_runsBuilder lo hi)

theorem frozenOnce_take (h0 : 0 < n) (hn : n < b.size) : FrozenOnce (b.take n) := by
  have hwhole := b.balanced_runsBuilder 0 (b.indexer.locate n).slot
  unfold take
  rw [if_neg (Nat.ne_of_gt h0), if_neg (Nat.not_le.mpr hn)]
  dsimp only
  split
  · exact Builder.frozenOnce (Builder.balanced_addMany hwhole _ _)
  · exact Builder.frozenOnce hwhole

theorem frozenOnce_drop (h0 : 0 < n) (hn : n < b.size) : FrozenOnce (b.drop n) := by
  have hempty := Builder.balanced_empty b.comparator
  unfold drop
  rw [if_neg (Nat.ne_of_gt h0), if_neg (Nat.not_le.mpr hn)]
  dsimp only
  split
  · exact Builder.frozenOnce hempty
  · exact Builder.frozenOnce (Builder.balanced_addRuns (Builder.balanced_addMany hempty _ _) _)

/-- Where no builder is needed, nothing is reported. -/
theorem records_take_drop_silent (h : n = 0 ∨ b.size ≤ n) :
    (b.take n).records = [] ∧ (b.drop n).records = [] := by
  unfold take drop
  by_cases h0 : n = 0
  · rw [if_pos h0, if_pos h0]
    exact ⟨rfl, rfl⟩
  · have hn := h.resolve_left h0
    rw [if_neg h0, if_pos hn, if_neg h0, if_pos hn]
    exact ⟨rfl, rfl⟩

theorem records_partitionM (b : Bag α) (p : Probe σ α) (state : σ) :
    ((b.partitionM p).run state).1.records = ((b.partitionM p).run state).1.value.freezings := by
  have hempty := Builder.balanced_empty b.comparator
  obtain ⟨hselected, hrejected, -⟩ := distribute_keeps p b.entries hempty hempty state
  exact congrArg₂ (· ++ ·) (Builder.frozenOnce hselected) (Builder.frozenOnce hrejected)

/-- **The boundary is where the parts meet.** -/
theorem records_spanM (h : b.SoundIn c) (p : Probe σ α) (state : σ) :
    ((b.spanM p).run state).1.records =
      .boundary ((b.spanM p).run state).1.value.selected.distinct b.distinct ::
        ((b.spanM p).run state).1.value.freezings := by
  -- the boundary was found by the probe, the number of slots by rebuilding those before it
  have hselected : ((b.spanM p).run state).1.value.selected.distinct =
      ((b.boundary p).run state).1 :=
    (holdsSlots_slice h 0 _).distinct_eq (b.boundary_le p state)
  have hparts := congrArg₂ (· ++ ·) (b.frozenOnce_slice 0 ((b.boundary p).run state).1)
    (b.frozenOnce_slice ((b.boundary p).run state).1 b.distinct)
  rw [hselected]
  exact congrArg (Record.boundary ((b.boundary p).run state).1 b.distinct :: ·) hparts

/-! ### Splicing -/

section Splicing

variable [Std.TransCmp c.compare]

/-- **Adding splices exactly when it makes a slot.** -/
theorem insertMany_cases (h : b.SoundIn c) (e : α) (n : Nat) :
    ((n = 0 ∨ ∃ x ∈ b.elements, c.compare x e = .eq) ∧ (b.insertMany e n).records = [] ∧
        (b.insertMany e n).value.distinct = b.distinct) ∨
      (n ≠ 0 ∧ (∀ x ∈ b.elements, c.compare x e ≠ .eq) ∧
        (b.insertMany e n).records = [.spliceInsert (b.rank e) b.distinct] ∧
        (b.insertMany e n).value.distinct = b.distinct + 1) := by
  by_cases hn : n = 0
  · subst hn
    exact Or.inl ⟨Or.inl rfl, rfl, rfl⟩
  unfold insertMany
  rw [if_neg hn]
  cases hs : b.search e with
  | found i =>
    obtain ⟨-, x, hx, heq⟩ := h.found_eq hs
    exact Or.inl ⟨Or.inr ⟨x, Array.mem_of_getElem? hx, heq⟩, rfl, rfl⟩
  | absent i =>
    obtain ⟨hi, hne⟩ := h.absent_ne hs
    have hle := (h.balanced.absent_le hs).1
    refine Or.inr ⟨hn, hne, by rw [← hi]; rfl, ?_⟩
    show (b.elements.extract 0 i ++ #[e] ++ b.elements.extract i).size = b.elements.size + 1
    simp only [Array.size_append, Array.size_extract, List.size_toArray, List.length_cons,
      List.length_nil]
    omega

/-- **Removing splices exactly when it takes a slot away.** -/
theorem erase_cases (h : b.SoundIn c) (e : α) :
    (b.count e ≠ 1 ∧ (b.erase e).records = [] ∧ (b.erase e).value.distinct = b.distinct) ∨
      (b.count e = 1 ∧ (b.erase e).records = [.spliceRemove (b.rank e) b.distinct] ∧
        (∃ x, b.elements[b.rank e]? = some x ∧ c.compare x e = .eq) ∧
        (b.erase e).value.distinct + 1 = b.distinct) := by
  unfold erase Columns.count
  cases hs : b.search e with
  | absent i => exact Or.inl ⟨Nat.zero_ne_one, rfl, rfl⟩
  | found i =>
    obtain ⟨hi, hx⟩ := h.found_eq hs
    have hlt := (h.balanced.found_lt hs).1
    -- a count of zero would be spliced out as well, but sound columns have none
    have hpos : 0 < b.counts.getD i 0 := by
      obtain ⟨pre, r, post, he, rfl, -, -, -⟩ := h.search_found hs
      rw [Columns.getD_counts he]
      exact h.tallied.pos_of_entries he
    dsimp only
    by_cases hcount : 1 < b.counts.getD i 0
    · rw [if_pos hcount]
      exact Or.inl ⟨Nat.ne_of_gt hcount, rfl, rfl⟩
    · rw [if_neg hcount]
      refine Or.inr ⟨by omega, by rw [← hi]; rfl, by rwa [← hi], ?_⟩
      show (b.elements.extract 0 i ++ b.elements.extract (i + 1)).size + 1 = b.elements.size
      simp only [Array.size_append, Array.size_extract]
      omega

end Splicing

end Bag

/-! ### Runs of edits -/

/-- An edit of one element of a bag. -/
inductive ElementEdit (α : Type) where
  | insert (e : α)
  | insertMany (e : α) (n : Nat)
  | erase (e : α)

def ElementEdit.apply : ElementEdit α → Bag α → Traced (Bag α)
  | insert e, b => b.insert e
  | insertMany e n, b => b.insertMany e n
  | erase e, b => b.erase e

namespace Bag

variable {b : Bag α} {c : Comparator α}

/-- Makes edits one after the other. -/
def editAll (b : Bag α) (edits : List (ElementEdit α)) : Traced (Bag α) :=
  edits.foldlM (fun b f => f.apply b) b

theorem editAll_cons (b : Bag α) (f : ElementEdit α) (edits : List (ElementEdit α)) :
    b.editAll (f :: edits) = f.apply b >>= fun b' => b'.editAll edits :=
  List.foldlM_cons

section Runs

variable [Std.TransCmp c.compare]

theorem soundIn_apply (h : b.SoundIn c) (f : ElementEdit α) : (f.apply b).value.SoundIn c := by
  cases f with
  | insert e => exact soundIn_insertMany h e 1
  | insertMany e n => exact soundIn_insertMany h e n
  | erase e => exact soundIn_erase h e

/-- **One edit changes the number of slots as it reports.** -/
theorem apply_distinct (h : b.SoundIn c) (f : ElementEdit α) :
    (f.apply b).value.distinct + (f.apply b).records.countP Record.isRemoval =
      b.distinct + (f.apply b).records.countP Record.isInsertion := by
  have hinsert : ∀ e n, (b.insertMany e n).value.distinct +
      (b.insertMany e n).records.countP Record.isRemoval =
        b.distinct + (b.insertMany e n).records.countP Record.isInsertion := by
    intro e n
    rcases insertMany_cases h e n with ⟨-, hrecords, hdistinct⟩ | ⟨-, -, hrecords, hdistinct⟩
    · rw [hrecords, hdistinct]
      rfl
    · rw [hrecords, hdistinct]
      rfl
  cases f with
  | insert e => exact hinsert e 1
  | insertMany e n => exact hinsert e n
  | erase e =>
    show (b.erase e).value.distinct + (b.erase e).records.countP Record.isRemoval =
      b.distinct + (b.erase e).records.countP Record.isInsertion
    rcases erase_cases h e with ⟨-, hrecords, hdistinct⟩ | ⟨-, hrecords, -, hdistinct⟩
    · rw [hrecords, hdistinct]
      rfl
    · rw [hrecords, ← hdistinct]
      rfl

/-- **Any run of edits changes the number of slots as it reports.** -/
theorem editAll_distinct (h : b.SoundIn c) (edits : List (ElementEdit α)) :
    (b.editAll edits).value.distinct + (b.editAll edits).records.countP Record.isRemoval =
      b.distinct + (b.editAll edits).records.countP Record.isInsertion := by
  induction edits generalizing b with
  | nil => rfl
  | cons f edits ih =>
    have hfirst := apply_distinct h f
    have hrest := ih (soundIn_apply h f)
    rw [editAll_cons, Traced.value_bind, Traced.records_bind, List.countP_append, List.countP_append]
    omega

end Runs

/-! ### All operations -/

/-- What the operations on a bag report is true: of the bag, and of what they make of it. -/
structure ReportsTruly (b : Bag α) : Prop where
  /-- A new element is spliced in behind the lesser ones. -/
  insertMany_splices : ∀ e n, 0 < n → (∀ x ∈ b.elements, b.comparator.compare x e ≠ .eq) →
    (b.insertMany e n).records = [.spliceInsert (b.rank e) b.distinct]
  insertMany_silent : ∀ e n, (n = 0 ∨ ∃ x ∈ b.elements, b.comparator.compare x e = .eq) →
    (b.insertMany e n).records = []
  /-- The last occurrence is spliced out at its slot. -/
  erase_splices : ∀ e, b.count e = 1 →
    (b.erase e).records = [.spliceRemove (b.rank e) b.distinct] ∧
      ∃ x, b.elements[b.rank e]? = some x ∧ b.comparator.compare x e = .eq
  erase_silent : ∀ e, b.count e ≠ 1 → (b.erase e).records = []
  insertAll : ∀ items, FrozenOnce (b.insertAll items)
  eraseAll : ∀ items, FrozenOnce (b.eraseAll items)
  take : ∀ n, 0 < n → n < b.size → FrozenOnce (b.take n)
  drop : ∀ n, 0 < n → n < b.size → FrozenOnce (b.drop n)
  take_drop_silent : ∀ n, (n = 0 ∨ b.size ≤ n) → (b.take n).records = [] ∧ (b.drop n).records = []
  takeWhile : ∀ {σ : Type} (p : Probe σ α) state, FrozenOnce ((b.takeWhileM p).run state).1
  dropWhile : ∀ {σ : Type} (p : Probe σ α) state, FrozenOnce ((b.dropWhileM p).run state).1
  span : ∀ {σ : Type} (p : Probe σ α) state,
    ((b.spanM p).run state).1.records =
      .boundary ((b.spanM p).run state).1.value.selected.distinct b.distinct ::
        ((b.spanM p).run state).1.value.freezings
  partition : ∀ {σ : Type} (p : Probe σ α) state,
    ((b.partitionM p).run state).1.records = ((b.partitionM p).run state).1.value.freezings
  /-- Along a run of edits, slots are gained and lost as reported. -/
  editAll : ∀ edits,
    (b.editAll edits).value.distinct + (b.editAll edits).records.countP Record.isRemoval =
      b.distinct + (b.editAll edits).records.countP Record.isInsertion

theorem reportsTruly [Std.TransCmp b.comparator.compare] (hb : b.WellFormed) : b.ReportsTruly := by
  have h := hb.soundIn
  exact {
    insertMany_splices := fun e n hn hne => by
      rcases insertMany_cases h e n with ⟨h0 | ⟨x, hx, heq⟩, -⟩ | ⟨-, -, hrecords, -⟩
      · exact absurd h0 (Nat.ne_of_gt hn)
      · exact absurd heq (hne x hx)
      · exact hrecords
    insertMany_silent := fun e n hsilent => by
      rcases insertMany_cases h e n with ⟨-, hrecords, -⟩ | ⟨hn, hne, -⟩
      · exact hrecords
      · obtain ⟨x, hx, heq⟩ := hsilent.resolve_left hn
        exact absurd heq (hne x hx)
    erase_splices := fun e hcount => by
      rcases erase_cases h e with ⟨hne, -⟩ | ⟨-, hrecords, hslot, -⟩
      · exact absurd hcount hne
      · exact ⟨hrecords, hslot⟩
    erase_silent := fun e hcount => by
      rcases erase_cases h e with ⟨-, hrecords, -⟩ | ⟨heq, -⟩
      · exact hrecords
      · exact absurd heq hcount
    insertAll := fun items => Builder.frozenOnce (Builder.balanced_addAll hb.balanced items)
    eraseAll := fun items => Builder.frozenOnce (Builder.balanced_removeAll hb.balanced items)
    take := fun _ => frozenOnce_take
    drop := fun _ => frozenOnce_drop
    take_drop_silent := fun _ => records_take_drop_silent
    takeWhile := fun p state => b.frozenOnce_slice _ _
    dropWhile := fun p state => b.frozenOnce_slice _ _
    span := records_spanM h
    partition := b.records_partitionM
    editAll := editAll_distinct h }

end Bag

/-- **Records tell the truth.**  Of a sound bag, every operation reports what it does to it.  A builder
whose total is that of its counts reports the bag that it freezes to: a sound builder is such, and
additions and removals keep it so.  The making of a bag from items freezes one.  The texts name the step
and its numbers. -/
theorem records_truthful :
    (∀ (b : Bag α) [Std.TransCmp b.comparator.compare], b.WellFormed → b.ReportsTruly) ∧
    (∀ b : Builder α, b.Balanced → FrozenOnce b.freeze) ∧
    (∀ (s : Settings α) (c : Comparator α) (items : List α), s.comparator? = some c →
      ∃ t, Bag.collect s items = .ok t ∧ FrozenOnce t) ∧
    (∀ [Ord α] (label : Nat) (items : List α), FrozenOnce (Bag.ofList label items)) ∧
    ∀ m n : Nat,
      (Record.spliceInsert m n).message = "splice-insert at " ++ toString m ++ " of " ++ toString n ∧
      (Record.spliceRemove m n).message = "splice-remove at " ++ toString m ++ " of " ++ toString n ∧
      (Record.boundary m n).message = "partition boundary " ++ toString m ++ " of " ++ toString n ∧
      (Record.freezing m n).message =
        "freezing builder: " ++ toString m ++ " distinct, " ++ toString n ++ " total" := by
  have hitems : ∀ (c : Comparator α) (items : List α),
      FrozenOnce ((Builder.empty c).addAll items).freeze := fun c items =>
    Builder.frozenOnce (Builder.balanced_addAll (Builder.balanced_empty c) items)
  refine ⟨fun b _ => Bag.reportsTruly, fun _ => Builder.frozenOnce, fun s c items hs => ?_,
    fun label items => hitems _ items, fun _ _ => ⟨rfl, rfl, rfl, rfl⟩⟩
  exact ⟨_, Bag.collect_eq_ok_iff.mpr ⟨c, hs, rfl⟩, hitems c items⟩

/-- Numbers by tens: one that is like another is not spliced in, and of two occurrences only the last is
spliced out. -/
theorem records_truthful_byTens :
    let b : Bag Nat := ⟨⟨#[12, 25], #[2, 1], .byKey 0 (· / 10), 3⟩⟩
    b.WellFormed ∧ (b.insertMany 31 4).records = [.spliceInsert 2 2] ∧
      (b.insertMany 17 4).records = [] ∧ (b.erase 19).records = [] ∧
      (b.erase 21).records = [.spliceRemove 1 2] ∧
      (b.take 1).records = [.freezing 1 1] ∧ (b.take 3).records = [] ∧
      (b.editAll [.erase 10, .erase 10, .insert 47]).records = [.spliceRemove 0 2, .spliceInsert 1 1] ∧
      (b.editAll [.erase 10, .erase 10, .insert 47]).value.distinct + 1 = b.distinct + 1 ∧
      (Builder.ofBag b).freeze.records.map Record.message =
        ["freezing builder: 2 distinct, 3 total"] ∧
      (b.erase 21).records.map Record.message = ["splice-remove at 1 of 2"] ∧
      ∃ t, Bag.collect { comparator? := some b.comparator } [25, 12, 17] = .ok t ∧
        t.records = [.freezing 2 3] := by
  intro b
  have hb : b.WellFormed := by decide
  obtain ⟨hbags, hbuilders, hcollect, -⟩ := records_truthful (α := Nat)
  have h := hbags b hb
  have hrun : (b.editAll [.erase 10, .erase 10, .insert 47]).records =
      [.spliceRemove 0 2, .spliceInsert 1 1] := by decide +kernel
  have hdistinct := h.editAll [.erase 10, .erase 10, .insert 47]
  rw [hrun] at hdistinct
  have herase : (b.erase 21).records = [.spliceRemove 1 2] :=
    (h.erase_splices 21 (by decide +kernel)).1.trans (by decide)
  refine ⟨hb, (h.insertMany_splices 31 4 (by decide) (by decide)).trans (by decide),
    h.insertMany_silent 17 4 (by decide), h.erase_silent 19 (by decide +kernel), herase, ?_,
    (h.take_drop_silent 3 (by decide)).1, hrun, hdistinct, ?_, ?_, ?_⟩
  · have htake := h.take 1 (by decide) (by decide)
    exact htake.trans (by decide +kernel)
  · have hfreeze : FrozenOnce (Builder.ofBag b).freeze := hbuilders _ hb.balanced
    rw [hfreeze]
    decide +kernel
  · rw [herase]
    decide +kernel
  · obtain ⟨t, ht, hfrozen⟩ := hcollect { comparator? := some b.comparator } _ [25, 12, 17] rfl
    refine ⟨t, ht, hfrozen.trans ?_⟩
    obtain ⟨c, hc, rfl⟩ := Bag.collect_eq_ok_iff.mp ht
    obtain rfl := Option.some.inj hc
    decide +kernel

end SortedMultiset
