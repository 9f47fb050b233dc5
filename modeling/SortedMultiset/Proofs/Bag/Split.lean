import SortedMultiset.Bag.Split
import SortedMultiset.Proofs.Bag.Edit
import SortedMultiset.Proofs.Indexer
import SortedMultiset.Proofs.Probe
import SortedMultiset.Proofs.Runs.Deal

/-!
# The parts of a bag

A part of a bag is the bag itself, or the empty bag, or is made by a builder that starts empty under the
comparator of the bag and is handed some runs of it, of which one may be cut.  These ascend, so the builder
appends each of them (`Builder.addRuns_behind`), and the part has just these runs; that the comparator
obeys any laws is nowhere needed.  An ordinal inside the bag falls into one run, the first one if it is
zero (`Bag.CutsAt.of_zero`), so cutting there is no exception:

* `Bag.entries_take`, `Bag.entries_drop`: the runs on both sides of an ordinal;
* `Bag.entries_slice`: the runs of a range of slots;
* `Bag.entries_spanM`: the runs on both sides of the first that is rejected;
* `Bag.entries_partitionM`: the runs by the answers of the probe, which is asked about every distinct
  element in turn, whatever becomes of it (`Bag.distribute_eq`).

In all these ways the runs of the bag are dealt out (`Deals`).
-/

namespace SortedMultiset.Bag

variable {σ α : Type} {b : Bag α} {c : Comparator α} {n offset : Nat} {r : α × Nat}
  {pre post : List (α × Nat)}

/-! ### Cutting at an ordinal -/

/-- Where an ordinal falls: into the run after those of `pre`, behind `offset` occurrences of it. -/
structure CutsAt (b : Bag α) (n : Nat) (pre : List (α × Nat)) (r : α × Nat) (offset : Nat)
    (post : List (α × Nat)) : Prop where
  entries_eq : b.entries = pre ++ r :: post
  locate_eq : b.indexer.locate n = ⟨pre.length, offset⟩
  offset_lt : offset < r.2
  total_add : total pre + offset = n

theorem prefixSum_length (h : b.SoundIn c) (he : b.entries = pre ++ post) :
    b.indexer.prefixSum pre.length = total pre := by
  have hcounts : b.indexer.counts.toList = pre.map Prod.snd ++ post.map Prod.snd := by
    rw [← List.map_append, ← he]
    exact (Columns.map_snd_entries h.length_eq).symm
  rw [Indexer.prefixSum, hcounts, total, ← List.length_map Prod.snd, List.take_left]

/-- An ordinal inside the bag falls into a run. -/
theorem exists_cutsAt (h : b.SoundIn c) (hn : n < b.size) :
    ∃ pre r offset post, b.CutsAt n pre r offset post := by
  have hsum : n < sumCounts b.indexer.counts.toList :=
    Nat.lt_of_lt_of_eq hn h.wellFormed.size_eq
  have hinside := Indexer.inside_locate hsum
  have hplaces := b.indexer.placesBefore_locate n
  cases hlocate : b.indexer.locate n with
  | mk slot offset =>
    rw [hlocate] at hinside hplaces
    have hlt : slot < b.entries.length := by
      rw [← h.elements_size, ← h.length_eq]
      exact hinside.slot_lt
    have hlen : (b.entries.take slot).length = slot := List.length_take_of_le (Nat.le_of_lt hlt)
    have he : b.entries = b.entries.take slot ++ b.entries[slot] :: b.entries.drop (slot + 1) := by
      rw [← List.drop_eq_getElem_cons hlt, List.take_append_drop]
    refine ⟨b.entries.take slot, b.entries[slot], offset, b.entries.drop (slot + 1), he, ?_, ?_, ?_⟩
    · rw [hlen, hlocate]
    · rw [← Columns.getD_counts he, hlen]
      exact hinside.offset_lt
    · rw [← prefixSum_length h he, hlen]
      exact hplaces

theorem CutsAt.slots_before (hcut : b.CutsAt n pre r offset post) :
    (b.entries.drop 0).take (pre.length - 0) = pre := by
  rw [hcut.entries_eq, List.drop_zero, Nat.sub_zero, List.take_left]

theorem CutsAt.slots_behind (hcut : b.CutsAt n pre r offset post) :
    b.entries.drop (pre.length + 1) = post := by
  rw [hcut.entries_eq, List.append_cons, List.drop_left' (by simp)]

theorem CutsAt.distinct_eq (h : b.SoundIn c) (hcut : b.CutsAt n pre r offset post) :
    b.distinct = pre.length + (post.length + 1) :=
  h.elements_size_append hcut.entries_eq

/-- Before the run that is cut, everything is less than it. -/
theorem CutsAt.lt (h : b.SoundIn c) (hcut : b.CutsAt n pre r offset post) :
    ∀ s ∈ pre, c.compare s.1 r.1 = .lt := by
  have hsorted := h.sortedRuns
  rw [hcut.entries_eq] at hsorted
  exact fun s hs => (List.pairwise_append.mp hsorted.ascending).2.2 s hs r (by simp)

/-- Before the ordinal zero there are no runs. -/
theorem CutsAt.of_zero (h : b.SoundIn c) (hcut : b.CutsAt 0 pre r offset post) :
    pre = [] ∧ offset = 0 := by
  have hzero := hcut.total_add
  have hsorted : SortedRuns c.compare pre := by
    refine h.sortedRuns.sublist ?_
    rw [hcut.entries_eq]
    exact List.sublist_append_left _ _
  exact ⟨hsorted.total_eq_zero_iff.mp (by omega), by omega⟩

/-- The runs on the near side of a cut, of which the last may be cut short. -/
theorem CutsAt.sortedRuns_before (h : b.SoundIn c) (hcut : b.CutsAt n pre r offset post) :
    SortedRuns c.compare (pre ++ if offset = 0 then [] else [(r.1, offset)]) := by
  have hpre : SortedRuns c.compare pre := by
    refine h.sortedRuns.sublist ?_
    rw [hcut.entries_eq]
    exact List.sublist_append_left _ _
  split_ifs with hoffset
  · rwa [List.append_nil]
  · exact hpre.concat (Nat.pos_of_ne_zero hoffset) (hcut.lt h)

/-- The runs on the far side of a cut, of which the first may be cut short. -/
theorem CutsAt.sortedRuns_behind (h : b.SoundIn c) (hcut : b.CutsAt n pre r offset post) :
    SortedRuns c.compare ((r.1, r.2 - offset) :: post) := by
  have hsorted : SortedRuns c.compare (r :: post) := by
    refine h.sortedRuns.sublist ?_
    rw [hcut.entries_eq]
    exact List.sublist_append_right _ _
  exact .cons (Nat.sub_pos_of_lt hcut.offset_lt) (fun s hs => hsorted.head_lt hs) hsorted.tail

/-- Taking fills a builder with the runs on the near side. -/
theorem take_eq_freeze (h : b.SoundIn c) (h0 : n ≠ 0) (hn : n < b.size)
    (hcut : b.CutsAt n pre r offset post) :
    b.take n = ((Builder.empty c).addRuns
      (pre ++ if offset = 0 then [] else [(r.1, offset)])).freeze := by
  unfold take runsBuilder
  rw [if_neg h0, if_neg (Nat.not_le.mpr hn), hcut.locate_eq, h.comparator_eq]
  dsimp only
  rw [Columns.getElem?_elements hcut.entries_eq, hcut.slots_before]
  dsimp only
  rw [Builder.addRuns, Builder.addRuns, List.foldl_append]
  split_ifs with hoffset
  · rw [hoffset, Builder.addMany_zero]
    rfl
  · rfl

/-- Dropping fills a builder with the runs on the far side. -/
theorem drop_eq_freeze (h : b.SoundIn c) (h0 : n ≠ 0) (hn : n < b.size)
    (hcut : b.CutsAt n pre r offset post) :
    b.drop n = ((Builder.empty c).addRuns ((r.1, r.2 - offset) :: post)).freeze := by
  unfold drop
  rw [if_neg h0, if_neg (Nat.not_le.mpr hn), hcut.locate_eq, h.comparator_eq]
  dsimp only
  rw [hcut.entries_eq, List.drop_left]
  rfl

/-- **The runs before an ordinal**: those before the run that is cut, and what of it lies before the
cut. -/
theorem entries_take (h : b.SoundIn c) (hn : n < b.size) (hcut : b.CutsAt n pre r offset post) :
    (b.take n).value.entries = pre ++ if offset = 0 then [] else [(r.1, offset)] := by
  by_cases h0 : n = 0
  · subst h0
    obtain ⟨rfl, rfl⟩ := hcut.of_zero h
    rfl
  rw [take_eq_freeze h h0 hn hcut]
  exact Builder.entries_freeze_addRuns (hcut.sortedRuns_before h)

/-- **The runs from an ordinal on**: what of the run that is cut lies behind the cut, and those behind
it. -/
theorem entries_drop (h : b.SoundIn c) (hn : n < b.size) (hcut : b.CutsAt n pre r offset post) :
    (b.drop n).value.entries = (r.1, r.2 - offset) :: post := by
  by_cases h0 : n = 0
  · subst h0
    obtain ⟨rfl, rfl⟩ := hcut.of_zero h
    exact hcut.entries_eq
  rw [drop_eq_freeze h h0 hn hcut]
  exact Builder.entries_freeze_addRuns (hcut.sortedRuns_behind h)

theorem eq_empty_of_size (h : b.WellFormed) (hsize : b.size = 0) : b = .empty b.comparator := by
  have hentries : b.entries = [] := by
    rw [← h.soundIn.sortedRuns.total_eq_zero_iff, h.total_entries, hsize]
  exact ext_entries h.soundIn (soundIn_empty b.comparator) hentries

/-- Beyond the end there is nothing to cut. -/
theorem take_drop_beyond (h : b.WellFormed) (hn : b.size ≤ n) :
    (b.take n).value = b ∧ (b.drop n).value = .empty b.comparator := by
  by_cases h0 : n = 0
  · have hempty := eq_empty_of_size h (by omega)
    unfold take drop
    rw [if_pos h0, if_pos h0]
    exact ⟨hempty.symm, hempty⟩
  · unfold take drop
    rw [if_neg h0, if_pos hn, if_neg h0, if_pos hn]
    exact ⟨rfl, rfl⟩

theorem soundIn_take (h : b.SoundIn c) (n : Nat) : (b.take n).value.SoundIn c := by
  by_cases h0 : n = 0
  · rw [h0]
    exact h.comparator_eq ▸ Columns.soundIn_empty _
  rcases Nat.lt_or_ge n b.size with hn | hn
  · obtain ⟨pre, r, offset, post, hcut⟩ := exists_cutsAt h hn
    rw [take_eq_freeze h h0 hn hcut]
    exact Builder.soundIn_freeze_addRuns (hcut.sortedRuns_before h)
  · rw [(take_drop_beyond h.wellFormed hn).1]
    exact h

theorem soundIn_drop (h : b.SoundIn c) (n : Nat) : (b.drop n).value.SoundIn c := by
  by_cases h0 : n = 0
  · rw [h0]
    exact h
  rcases Nat.lt_or_ge n b.size with hn | hn
  · obtain ⟨pre, r, offset, post, hcut⟩ := exists_cutsAt h hn
    rw [drop_eq_freeze h h0 hn hcut]
    exact Builder.soundIn_freeze_addRuns (hcut.sortedRuns_behind h)
  · rw [(take_drop_beyond h.wellFormed hn).2, h.comparator_eq]
    exact Columns.soundIn_empty c

theorem deals_take_drop (h : b.SoundIn c) (n : Nat) :
    Deals b.entries (b.take n).value.entries (b.drop n).value.entries := by
  rcases Nat.lt_or_ge n b.size with hn | hn
  · obtain ⟨pre, r, offset, post, hcut⟩ := exists_cutsAt h hn
    rw [entries_take h hn hcut, entries_drop h hn hcut, hcut.entries_eq]
    split_ifs with hoffset
    · rw [hoffset, Nat.sub_zero, List.append_nil]
      exact .append _ _
    · have hdeals := ((Deals.all_right post).cut r.1 offset (r.2 - offset)).append_left pre
      rwa [Nat.add_sub_cancel' (Nat.le_of_lt hcut.offset_lt)] at hdeals
  · obtain ⟨htake, hdrop⟩ := take_drop_beyond h.wellFormed hn
    rw [htake, hdrop]
    exact .all_left _

/-! ### Cutting before the first rejected run -/

theorem sortedRuns_slots (h : b.SoundIn c) (lo k : Nat) :
    SortedRuns c.compare ((b.entries.drop lo).take k) :=
  h.sortedRuns.sublist ((List.take_sublist _ _).trans (List.drop_sublist _ _))

theorem soundIn_runsBuilder (h : b.SoundIn c) (lo hi : Nat) : (b.runsBuilder lo hi).SoundIn c := by
  unfold runsBuilder
  rw [h.comparator_eq]
  exact (Builder.addRuns_behind (Builder.soundIn_empty c) (sortedRuns_slots h lo _)).1

theorem entries_runsBuilder (h : b.SoundIn c) (lo hi : Nat) :
    (b.runsBuilder lo hi).entries = (b.entries.drop lo).take (hi - lo) := by
  unfold runsBuilder
  rw [h.comparator_eq]
  exact (Builder.addRuns_behind (Builder.soundIn_empty c) (sortedRuns_slots h lo _)).2

theorem soundIn_slice (h : b.SoundIn c) (lo hi : Nat) : (b.slice lo hi).value.SoundIn c :=
  Builder.soundIn_freeze (soundIn_runsBuilder h lo hi)

theorem entries_slice (h : b.SoundIn c) (lo hi : Nat) :
    (b.slice lo hi).value.entries = (b.entries.drop lo).take (hi - lo) :=
  (b.runsBuilder lo hi).entries_freeze.trans (entries_runsBuilder h lo hi)

theorem soundIn_takeWhileM (h : b.SoundIn c) (p : Probe σ α) (state : σ) :
    ((b.takeWhileM p).run state).1.value.SoundIn c :=
  soundIn_slice h _ _

theorem soundIn_dropWhileM (h : b.SoundIn c) (p : Probe σ α) (state : σ) :
    ((b.dropWhileM p).run state).1.value.SoundIn c :=
  soundIn_slice h _ _

theorem soundIn_spanM (h : b.SoundIn c) (p : Probe σ α) (state : σ) :
    ((b.spanM p).run state).1.value.selected.SoundIn c ∧
      ((b.spanM p).run state).1.value.rejected.SoundIn c :=
  ⟨soundIn_slice h _ _, soundIn_slice h _ _⟩

/-- **The runs on both sides of the boundary.** -/
theorem entries_spanM (h : b.SoundIn c) (p : Probe σ α) (state : σ) :
    ((b.spanM p).run state).1.value.selected.entries =
        b.entries.take ((b.boundary p).run state).1 ∧
      ((b.spanM p).run state).1.value.rejected.entries =
        b.entries.drop ((b.boundary p).run state).1 := by
  refine ⟨(entries_slice h 0 _).trans rfl,
    (entries_slice h _ _).trans (List.take_of_length_le ?_)⟩
  rw [List.length_drop, ← h.elements_size]
  exact Nat.le_refl _

theorem deals_spanM (h : b.SoundIn c) (p : Probe σ α) (state : σ) :
    Deals b.entries ((b.spanM p).run state).1.value.selected.entries
      ((b.spanM p).run state).1.value.rejected.entries := by
  have hdeals := Deals.append (b.entries.take ((b.boundary p).run state).1)
    (b.entries.drop ((b.boundary p).run state).1)
  rw [List.take_append_drop] at hdeals
  rw [(entries_spanM h p state).1, (entries_spanM h p state).2]
  exact hdeals

/-! ### Deciding run by run -/

/-- The items that were given an answer. -/
def chosen {β : Type} (wanted : Bool) : List Bool → List β → List β
  | answer :: answers, x :: xs =>
    if answer = wanted then x :: chosen wanted answers xs else chosen wanted answers xs
  | _, _ => []

theorem chosen_sublist {β : Type} (wanted : Bool) (answers : List Bool) (xs : List β) :
    (chosen wanted answers xs).Sublist xs := by
  fun_induction chosen wanted answers xs with
  | case1 answers x xs ih => exact ih.cons_cons x
  | case2 answer answers x xs _ ih => exact ih.cons x
  | case3 => exact List.nil_sublist _

/-- Every run goes where its answer says. -/
theorem deals_chosen {answers : List Bool} {runs : List (α × Nat)}
    (hlen : answers.length = runs.length) :
    Deals runs (chosen true answers runs) (chosen false answers runs) := by
  induction runs generalizing answers with
  | nil =>
    obtain rfl := List.eq_nil_of_length_eq_zero hlen
    exact .nil
  | cons r runs ih =>
    obtain ⟨answer, answers, rfl⟩ := List.exists_cons_of_length_eq_add_one hlen
    have htail := ih (Nat.succ.inj hlen)
    cases answer with
    | true => exact htail.left r
    | false => exact htail.right r

theorem distribute_cons (p : Probe σ α) (e : α) (n : Nat) (runs : List (α × Nat))
    (selected rejected : Builder α) (state : σ) :
    (distribute p ((e, n) :: runs) selected rejected).run state =
      if ((p e).run state).1 then
        (distribute p runs (selected.addMany e n) rejected).run ((p e).run state).2
      else (distribute p runs selected (rejected.addMany e n)).run ((p e).run state).2 := by
  rw [distribute, StateT.run_bind]
  show (if _ then _ else _ : StateM σ _).run _ = _
  split_ifs <;> rfl

/-- **Distributing is asking first.**  The probe is asked about every element in turn, and the builders
get the runs by its answers. -/
theorem distribute_eq (p : Probe σ α) (runs : List (α × Nat)) (selected rejected : Builder α)
    (state : σ) :
    (distribute p runs selected rejected).run state =
      ((selected.addRuns (chosen true (((runs.map Prod.fst).mapM p).run state).1 runs),
        rejected.addRuns (chosen false (((runs.map Prod.fst).mapM p).run state).1 runs)),
        (((runs.map Prod.fst).mapM p).run state).2) := by
  induction runs generalizing selected rejected state with
  | nil => rfl
  | cons r runs ih =>
    obtain ⟨e, n⟩ := r
    rw [distribute_cons, List.map_cons, Probe.run_mapM_cons, ih, ih]
    cases hanswer : ((p e).run state).1 with
    | true => rfl
    | false => rfl

/-- The answers of a probe that is asked about every distinct element in turn. -/
def answers (b : Bag α) (p : Probe σ α) (state : σ) : List Bool :=
  ((b.elements.toList.mapM p).run state).1

theorem length_answers (b : Bag α) (p : Probe σ α) (state : σ) :
    (b.answers p state).length = b.distinct := by
  rw [answers, Probe.length_mapM, Array.length_toList]
  rfl

theorem value_partitionM (hlen : b.counts.size = b.elements.size) (p : Probe σ α) (state : σ) :
    ((b.partitionM p).run state).1.value =
      { selected := (Builder.addRuns (.empty b.comparator)
          (chosen true (b.answers p state) b.entries)).freeze.value
        rejected := (Builder.addRuns (.empty b.comparator)
          (chosen false (b.answers p state) b.entries)).freeze.value } := by
  have hdistribute := distribute_eq p b.entries (.empty b.comparator) (.empty b.comparator) state
  rw [Columns.map_fst_entries hlen] at hdistribute
  exact congrArg (fun parts => Split.mk parts.1.1.freeze.value parts.1.2.freeze.value) hdistribute

theorem sortedRuns_chosen (h : b.SoundIn c) (wanted : Bool) (answers : List Bool) :
    SortedRuns c.compare (chosen wanted answers b.entries) :=
  h.sortedRuns.sublist (chosen_sublist wanted _ _)

theorem soundIn_partitionM (h : b.SoundIn c) (p : Probe σ α) (state : σ) :
    ((b.partitionM p).run state).1.value.selected.SoundIn c ∧
      ((b.partitionM p).run state).1.value.rejected.SoundIn c := by
  rw [value_partitionM h.length_eq, h.comparator_eq]
  exact ⟨Builder.soundIn_freeze_addRuns (sortedRuns_chosen h true _),
    Builder.soundIn_freeze_addRuns (sortedRuns_chosen h false _)⟩

/-- **The runs by their answers.** -/
theorem entries_partitionM (h : b.SoundIn c) (p : Probe σ α) (state : σ) :
    ((b.partitionM p).run state).1.value.selected.entries =
        chosen true (b.answers p state) b.entries ∧
      ((b.partitionM p).run state).1.value.rejected.entries =
        chosen false (b.answers p state) b.entries := by
  rw [value_partitionM h.length_eq, h.comparator_eq]
  exact ⟨Builder.entries_freeze_addRuns (sortedRuns_chosen h true _),
    Builder.entries_freeze_addRuns (sortedRuns_chosen h false _)⟩

theorem deals_partitionM (h : b.SoundIn c) (p : Probe σ α) (state : σ) :
    Deals b.entries ((b.partitionM p).run state).1.value.selected.entries
      ((b.partitionM p).run state).1.value.rejected.entries := by
  rw [(entries_partitionM h p state).1, (entries_partitionM h p state).2]
  exact deals_chosen ((b.length_answers p state).trans h.elements_size)

end SortedMultiset.Bag
