import SortedMultiset.Proofs.Bag.Split
import SortedMultiset.Proofs.Checked.Access

/-!
# Splitting on words

The parts of a bag are rebuilt from slots: builders are given the runs of a range of slots, one after the
other, and no slot is looked for that the bag does not have (`Bag.checkedAddSlots_eq`).  A builder never
holds more than the bag, so its totals are words.  Where a run is cut, fewer of its occurrences lie before
the cut than it has.

How many slots come before the first that a probe rejects is for the probe to say, but they are slots of
the bag (`Probe.acceptedLength_le`), whatever state it is in.
-/

namespace SortedMultiset

open Checked (ok_bind add_eq sub_eq)

variable {σ α : Type}

theorem total_take_le (i : Nat) (runs : List (α × Nat)) : total (runs.take i) ≤ total runs := by
  rw [total, total, List.map_take]
  exact sumCounts_take_le i _

theorem total_drop_le (i : Nat) (runs : List (α × Nat)) : total (runs.drop i) ≤ total runs := by
  have hsplit := sumCounts_take_add_drop i (runs.map Prod.snd)
  rw [total, total, List.map_drop]
  omega

namespace Bag

variable {b : Bag α} {c : Comparator α} {builder : Builder α} {n lo hi : Nat}

/-! ### The operations on words -/

/-- Gives a builder the runs of the slots from `lo` to before `hi`. -/
def checkedAddSlots (b : Bag α) (builder : Builder α) (lo hi : Nat) : Checked (Builder α) :=
  if lo < hi then do
    let e ← Checked.index b.elements lo
    let count ← Checked.index b.counts lo
    let builder ← builder.checkedAddMany e count
    b.checkedAddSlots builder (lo + 1) hi
  else return builder
termination_by hi - lo

/-- The bag of the runs of the slots from `lo` to before `hi`. -/
def checkedSlice (b : Bag α) (lo hi : Nat) : Checked (Bag α) := do
  let builder ← b.checkedAddSlots (.empty b.comparator) lo hi
  builder.checkedFreeze

/-- The first `n` elements of the expanded sequence. -/
def checkedTake (b : Bag α) (n : Nat) : Checked (Bag α) :=
  if n = 0 then return .empty b.comparator
  else if b.size ≤ n then return b
  else do
    let cut ← b.indexer.checkedLocate n
    let whole ← b.checkedAddSlots (.empty b.comparator) 0 cut.slot
    if 0 < cut.offset then
      let e ← Checked.index b.elements cut.slot
      let builder ← whole.checkedAddMany e cut.offset
      builder.checkedFreeze
    else whole.checkedFreeze

/-- The elements of the expanded sequence after the first `n`. -/
def checkedDrop (b : Bag α) (n : Nat) : Checked (Bag α) :=
  if n = 0 then return b
  else if b.size ≤ n then return .empty b.comparator
  else do
    let cut ← b.indexer.checkedLocate n
    -- how many distinct elements the builder is to make room for
    let _ ← Checked.sub b.distinct cut.slot
    let e ← Checked.index b.elements cut.slot
    let count ← Checked.index b.counts cut.slot
    let kept ← Checked.sub count cut.offset
    let builder ← (Builder.empty b.comparator).checkedAddMany e kept
    let next ← Checked.add cut.slot 1
    let builder ← b.checkedAddSlots builder next b.distinct
    builder.checkedFreeze

/-- The runs before the first that is rejected. -/
def checkedTakeWhileM (b : Bag α) (p : Probe σ α) : StateM σ (Checked (Bag α)) :=
  return b.checkedSlice 0 (← b.boundary p)

/-- The runs from the first that is rejected on. -/
def checkedDropWhileM (b : Bag α) (p : Probe σ α) : StateM σ (Checked (Bag α)) :=
  return b.checkedSlice (← b.boundary p) b.distinct

/-- Both parts: before the first run that is rejected, and from it on. -/
def checkedSpanM (b : Bag α) (p : Probe σ α) : StateM σ (Checked (Split α)) := do
  let cut ← b.boundary p
  return do
    let selected ← b.checkedSlice 0 cut
    let rejected ← b.checkedSlice cut b.distinct
    return { selected, rejected }

/-- Hands every run that a cursor yields to one of two builders. -/
def checkedDistribute (p : Probe σ α) (cursor : RunCursor α) (selected rejected : Builder α) :
    StateM σ (Checked (Builder α × Builder α)) :=
  match _ : cursor.checkedNext with
  | .error fault => return .error fault
  | .ok none => return .ok (selected, rejected)
  | .ok (some ((e, count), next)) => do
    if ← p e then
      match selected.checkedAddMany e count with
      | .error fault => return .error fault
      | .ok selected => checkedDistribute p next selected rejected
    else
      match rejected.checkedAddMany e count with
      | .error fault => return .error fault
      | .ok rejected => checkedDistribute p next selected rejected
termination_by Cursor.remaining cursor
decreasing_by all_goals exact RunCursor.remaining_lt_of_checkedNext ‹_›

/-- The runs that are accepted, and those that are not. -/
def checkedPartitionM (b : Bag α) (p : Probe σ α) : StateM σ (Checked (Split α)) := do
  let parts ← checkedDistribute p b.runCursor (.empty b.comparator) (.empty b.comparator)
  return do
    let (selected, rejected) ← parts
    let selected ← selected.checkedFreeze
    let rejected ← rejected.checkedFreeze
    return { selected, rejected }

/-! ### Rebuilding from slots -/

/-- **Slots of the bag are there**, and a builder that takes their runs holds them. -/
theorem checkedAddSlots_eq (h : b.SoundIn c) (hbuilder : builder.Balanced) (hhi : hi ≤ b.distinct)
    (hsize : builder.size + total ((b.entries.drop lo).take (hi - lo)) < wordSize) :
    b.checkedAddSlots builder lo hi =
      .ok (builder.addRuns ((b.entries.drop lo).take (hi - lo))) := by
  -- on the number of slots to come
  induction hslots : hi - lo generalizing builder lo with
  | zero =>
    rw [checkedAddSlots, if_neg (by omega), List.take_zero]
    rfl
  | succ slots ih =>
    have hlt : lo < b.entries.length := by
      rw [← h.elements_size]
      exact Nat.lt_of_lt_of_le (by omega) hhi
    have hlength : (b.entries.take lo).length = lo := by
      rw [List.length_take]
      omega
    have he : b.entries = b.entries.take lo ++ b.entries[lo] :: b.entries.drop (lo + 1) := by
      rw [← List.drop_eq_getElem_cons hlt, List.take_append_drop]
    have helement := Columns.index_elements he
    have hcount := h.index_counts he
    rw [hlength] at helement hcount
    rw [hslots, List.drop_eq_getElem_cons hlt, List.take_succ_cons, total_cons] at hsize
    have hrest : hi - (lo + 1) = slots := by omega
    rw [checkedAddSlots, if_pos (by omega), helement, ok_bind, hcount, ok_bind,
      Builder.checkedAddMany_eq hbuilder _ (by omega), ok_bind,
      ih (Builder.balanced_addMany hbuilder _ _) (by rw [Builder.size_addMany, hrest]; omega) hrest,
      List.drop_eq_getElem_cons hlt, List.take_succ_cons]
    rfl

/-- What a part of the slots holds is at most what the bag holds. -/
theorem total_slots_le (h : b.SoundIn c) (lo k : Nat) :
    total ((b.entries.drop lo).take k) ≤ b.size := by
  rw [← h.total_entries]
  exact Nat.le_trans (total_take_le k _) (total_drop_le lo _)

theorem checkedSlice_eq (h : b.SoundIn c) (hfits : b.Fits) (hhi : hi ≤ b.distinct) :
    b.checkedSlice lo hi = .ok (b.slice lo hi).value := by
  have hempty := Builder.balanced_empty b.comparator
  have hsize : 0 + total ((b.entries.drop lo).take (hi - lo)) < wordSize := by
    have hle := total_slots_le h lo (hi - lo)
    have hlt := hfits.size_lt
    omega
  unfold checkedSlice slice runsBuilder
  rw [checkedAddSlots_eq h hempty hhi hsize, ok_bind]
  exact Builder.checkedFreeze_eq (Builder.balanced_addRuns hempty _)
    (by rw [Builder.size_addRuns]; exact hsize)

/-! ### Cutting at an ordinal -/

theorem checkedTake_eq (h : b.SoundIn c) (hfits : b.Fits) (n : Nat) :
    b.checkedTake n = .ok (b.take n).value := by
  unfold checkedTake take
  by_cases h0 : n = 0
  · rw [if_pos h0, if_pos h0]
    rfl
  rw [if_neg h0, if_neg h0]
  by_cases hsize : b.size ≤ n
  · rw [if_pos hsize, if_pos hsize]
    rfl
  rw [if_neg hsize, if_neg hsize]
  have hn := Nat.lt_of_not_le hsize
  have hword := hfits.size_lt
  obtain ⟨pre, r, offset, post, hcut⟩ := exists_cutsAt h hn
  have hbefore := hcut.total_add
  have hempty := Builder.balanced_empty b.comparator
  have hwhole := hcut.slots_before
  have hslot : pre.length ≤ b.distinct := by
    rw [hcut.distinct_eq h]
    exact Nat.le_add_right _ _
  have hbalanced := Builder.balanced_addRuns hempty pre
  have hheld : ((Builder.empty b.comparator).addRuns pre).size = total pre := by
    rw [Builder.size_addRuns]
    exact Nat.zero_add _
  rw [(fits_indexer h hfits).checkedLocate_eq hn, ok_bind, hcut.locate_eq]
  dsimp only
  rw [checkedAddSlots_eq h hempty hslot
    (by rw [hwhole, ← Builder.size_addRuns, hheld]; omega), ok_bind, runsBuilder, hwhole,
    Columns.getElem?_elements hcut.entries_eq]
  dsimp only
  by_cases hoffset : 0 < offset
  · rw [if_pos hoffset, Columns.index_elements hcut.entries_eq, ok_bind,
      Builder.checkedAddMany_eq hbalanced _ (by omega), ok_bind]
    exact Builder.checkedFreeze_eq (Builder.balanced_addMany hbalanced _ _)
      (by rw [Builder.size_addMany]; omega)
  · rw [if_neg hoffset, Nat.eq_zero_of_not_pos hoffset, Builder.addMany_zero]
    exact Builder.checkedFreeze_eq hbalanced (by omega)

theorem checkedDrop_eq (h : b.SoundIn c) (hfits : b.Fits) (n : Nat) :
    b.checkedDrop n = .ok (b.drop n).value := by
  unfold checkedDrop drop
  by_cases h0 : n = 0
  · rw [if_pos h0, if_pos h0]
    rfl
  rw [if_neg h0, if_neg h0]
  by_cases hsize : b.size ≤ n
  · rw [if_pos hsize, if_pos hsize]
    rfl
  rw [if_neg hsize, if_neg hsize]
  have hn := Nat.lt_of_not_le hsize
  have hword := hfits.size_lt
  obtain ⟨pre, r, offset, post, hcut⟩ := exists_cutsAt h hn
  have hoffset := hcut.offset_lt
  have hempty := Builder.balanced_empty b.comparator
  have hdistinct := hcut.distinct_eq h
  have hrest : (b.entries.drop (pre.length + 1)).take (b.distinct - (pre.length + 1)) = post := by
    rw [hcut.slots_behind, hdistinct]
    exact List.take_of_length_le (by omega)
  have hheld : r.2 + total post ≤ b.size := by
    rw [← total_cons]
    exact h.total_le hcut.entries_eq
  have hbalanced := Builder.balanced_addMany hempty r.1 (r.2 - offset)
  have hfirst : ((Builder.empty b.comparator).addMany r.1 (r.2 - offset)).size = r.2 - offset := by
    rw [Builder.size_addMany]
    exact Nat.zero_add _
  have hstart : (Builder.empty b.comparator).size + (r.2 - offset) < wordSize := by
    rw [← Builder.size_addMany, hfirst]
    omega
  rw [(fits_indexer h hfits).checkedLocate_eq hn, ok_bind, hcut.locate_eq]
  dsimp only
  rw [sub_eq (by omega), ok_bind, Columns.index_elements hcut.entries_eq, ok_bind,
    h.index_counts hcut.entries_eq, ok_bind, sub_eq (Nat.le_of_lt hoffset), ok_bind,
    Builder.checkedAddMany_eq hempty _ hstart, ok_bind, add_eq (hfits.slot_lt h hcut.entries_eq),
    ok_bind, checkedAddSlots_eq h hbalanced (Nat.le_refl _) (by rw [hrest, hfirst]; omega), ok_bind,
    hrest, hcut.entries_eq, List.drop_left]
  dsimp only
  exact Builder.checkedFreeze_eq (Builder.balanced_addRuns hbalanced _)
    (by rw [Builder.size_addRuns, hfirst]; omega)

/-! ### Cutting before the first rejected run -/

theorem boundary_le (b : Bag α) (p : Probe σ α) (state : σ) :
    ((b.boundary p).run state).1 ≤ b.distinct := by
  have hle := p.acceptedLength_le b.elements.toList state
  rwa [Array.length_toList] at hle

theorem checkedTakeWhileM_eq (h : b.SoundIn c) (hfits : b.Fits) (p : Probe σ α) :
    b.checkedTakeWhileM p = (fun t => .ok t.value) <$> b.takeWhileM p := by
  funext state
  exact Prod.ext (checkedSlice_eq h hfits (b.boundary_le p state)) rfl

theorem checkedDropWhileM_eq (h : b.SoundIn c) (hfits : b.Fits) (p : Probe σ α) :
    b.checkedDropWhileM p = (fun t => .ok t.value) <$> b.dropWhileM p := by
  funext state
  exact Prod.ext (checkedSlice_eq h hfits (Nat.le_refl _)) rfl

theorem checkedSpanM_eq (h : b.SoundIn c) (hfits : b.Fits) (p : Probe σ α) :
    b.checkedSpanM p = (fun t => .ok t.value) <$> b.spanM p := by
  funext state
  refine Prod.ext ?_ rfl
  show (b.checkedSlice 0 ((b.boundary p).run state).1 >>= fun selected =>
    b.checkedSlice ((b.boundary p).run state).1 b.distinct >>= fun rejected =>
      pure ({ selected, rejected } : Split α)) = _
  rw [checkedSlice_eq h hfits (b.boundary_le p state), ok_bind,
    checkedSlice_eq h hfits (Nat.le_refl _)]
  rfl

/-! ### Deciding run by run -/

theorem checkedDistribute_of_none {p : Probe σ α} {cursor : RunCursor α}
    {selected rejected : Builder α} (hnext : cursor.checkedNext = .ok none) :
    checkedDistribute p cursor selected rejected = pure (.ok (selected, rejected)) := by
  rw [checkedDistribute]
  split
  · next hfault => cases hfault.symm.trans hnext
  · rfl
  · next hsome => cases hsome.symm.trans hnext

theorem checkedDistribute_of_some {p : Probe σ α} {cursor next : RunCursor α} {r : α × Nat}
    {selected rejected selected' rejected' : Builder α}
    (hnext : cursor.checkedNext = .ok (some (r, next)))
    (hselected : selected.checkedAddMany r.1 r.2 = .ok selected')
    (hrejected : rejected.checkedAddMany r.1 r.2 = .ok rejected') (state : σ) :
    (checkedDistribute p cursor selected rejected).run state =
      if ((p r.1).run state).1 then
        (checkedDistribute p next selected' rejected).run ((p r.1).run state).2
      else (checkedDistribute p next selected rejected').run ((p r.1).run state).2 := by
  rw [checkedDistribute]
  split
  · next hfault => cases hfault.symm.trans hnext
  · next hnone => cases hnone.symm.trans hnext
  · next hsome =>
    cases hsome.symm.trans hnext
    rw [StateT.run_bind, hselected, hrejected]
    show (if _ then _ else _ : StateM σ _).run _ = _
    split_ifs <;> rfl

/-- What the two builders hold, after runs were handed to them. -/
theorem distribute_keeps (p : Probe σ α) (runs : List (α × Nat)) {selected rejected : Builder α}
    (hselected : selected.Balanced) (hrejected : rejected.Balanced) (state : σ) :
    ((distribute p runs selected rejected).run state).1.1.Balanced ∧
      ((distribute p runs selected rejected).run state).1.2.Balanced ∧
      ((distribute p runs selected rejected).run state).1.1.size +
          ((distribute p runs selected rejected).run state).1.2.size =
        selected.size + rejected.size + total runs := by
  induction runs generalizing selected rejected state with
  | nil => exact ⟨hselected, hrejected, rfl⟩
  | cons r runs ih =>
    rw [distribute_cons, total_cons]
    split_ifs
    · obtain ⟨hleft, hright, hsize⟩ :=
        ih (Builder.balanced_addMany hselected r.1 r.2) hrejected ((p r.1).run state).2
      rw [Builder.size_addMany] at hsize
      exact ⟨hleft, hright, by omega⟩
    · obtain ⟨hleft, hright, hsize⟩ :=
        ih hselected (Builder.balanced_addMany hrejected r.1 r.2) ((p r.1).run state).2
      rw [Builder.size_addMany] at hsize
      exact ⟨hleft, hright, by omega⟩

/-- **Handing out the runs that are to come** stops nowhere. -/
theorem checkedDistribute_run (h : b.SoundIn c) (hfits : b.Fits) (p : Probe σ α)
    {pre post : List (α × Nat)} (he : b.entries = pre ++ post) {selected rejected : Builder α}
    (hselected : selected.Balanced) (hrejected : rejected.Balanced)
    (hsize : selected.size + rejected.size + total post < wordSize) (state : σ) :
    (checkedDistribute p ⟨b.toColumns, pre.length⟩ selected rejected).run state =
      (.ok ((distribute p post selected rejected).run state).1,
        ((distribute p post selected rejected).run state).2) := by
  induction post generalizing pre selected rejected state with
  | nil =>
    have hnext := (RunCursor.Stands.between he).checkedNext_eq h hfits
    rw [RunCursor.next?_end h.balanced he] at hnext
    rw [checkedDistribute_of_none hnext]
    rfl
  | cons r post ih =>
    have hnext := (RunCursor.Stands.between he).checkedNext_eq h hfits
    have he' : b.entries = (pre ++ [r]) ++ post := he.trans (List.append_cons _ _ _)
    rw [total_cons] at hsize
    rw [RunCursor.next?_of_entries he] at hnext
    rw [checkedDistribute_of_some hnext (Builder.checkedAddMany_eq hselected _ (by omega))
      (Builder.checkedAddMany_eq hrejected _ (by omega)), distribute_cons]
    split_ifs
    · exact ih he' (Builder.balanced_addMany hselected _ _) hrejected
        (by rw [Builder.size_addMany]; omega) _
    · exact ih he' hselected (Builder.balanced_addMany hrejected _ _)
        (by rw [Builder.size_addMany]; omega) _

theorem checkedPartitionM_eq (h : b.SoundIn c) (hfits : b.Fits) (p : Probe σ α) :
    b.checkedPartitionM p = (fun t => .ok t.value) <$> b.partitionM p := by
  funext state
  have hempty := Builder.balanced_empty b.comparator
  have hword : (Builder.empty b.comparator).size + (Builder.empty b.comparator).size +
      total b.entries < wordSize := by
    rw [h.total_entries]
    show 0 + b.size < wordSize
    rw [Nat.zero_add]
    exact hfits.size_lt
  have he : b.entries = [] ++ b.entries := rfl
  have hrun : (checkedDistribute p b.runCursor (.empty b.comparator) (.empty b.comparator)).run state =
      (.ok ((distribute p b.entries (.empty b.comparator) (.empty b.comparator)).run state).1,
        ((distribute p b.entries (.empty b.comparator) (.empty b.comparator)).run state).2) :=
    checkedDistribute_run h hfits p he hempty hempty hword state
  obtain ⟨hselected, hrejected, hsize⟩ := distribute_keeps p b.entries hempty hempty state
  have hparts : (b.checkedPartitionM p).run state =
      ((checkedDistribute p b.runCursor (.empty b.comparator) (.empty b.comparator)).run state).map
        (fun parts => parts >>= fun parts => parts.1.checkedFreeze >>= fun selected =>
          parts.2.checkedFreeze >>= fun rejected => pure { selected, rejected }) id := rfl
  show (b.checkedPartitionM p).run state = _
  rw [hparts, hrun, Prod.map, ok_bind, Builder.checkedFreeze_eq hselected (by omega), ok_bind,
    Builder.checkedFreeze_eq hrejected (by omega)]
  rfl

end Bag

end SortedMultiset
