import SortedMultiset.Proofs.Bag.Span

/-!
# Partitions

`Bag.partitionM` asks a probe about every distinct element, and its answers deal the runs out in two
parts.  A part has the runs with its answer, in the order of the bag (`Bag.chosen_eq`), and a class, which
is one run, goes to one part as a whole (`Bag.findRun_chosen`).

A plain predicate may be asked for both splits.  `Bag.spanM` then takes the longest accepted prefix where
`Bag.partitionM` filters, and the two differ as soon as something behind the prefix is accepted
(`filter_eq_takeWhile_iff`).

* `Bag.partition_by_answers`: what is asked, what the parts are, and when they are those of `Bag.spanM`.
-/

namespace SortedMultiset

/-- Filtering is cutting if nothing behind the accepted prefix is accepted. -/
theorem filter_eq_takeWhile_iff {β : Type} (q : β → Bool) (xs : List β) :
    (xs.filter q = xs.takeWhile q ∧ xs.filter (fun x => !q x) = xs.dropWhile q) ↔
      ∀ x ∈ xs.dropWhile q, q x = false := by
  induction xs with
  | nil => simp
  | cons x xs ih =>
    cases hx : q x with
    | true => simpa [hx] using ih
    | false => simp [hx, List.filter_eq_nil_iff, List.filter_eq_self]

/-- The parts of two splits have the same columns. -/
structure Split.SameColumns {α : Type} (s t : Split α) : Prop where
  selected_elements : s.selected.elements = t.selected.elements
  selected_counts : s.selected.counts = t.selected.counts
  rejected_elements : s.rejected.elements = t.rejected.elements
  rejected_counts : s.rejected.counts = t.rejected.counts

theorem Split.sameColumns_iff {α : Type} {c : Comparator α} {s t : Split α}
    (hs : s.selected.SoundIn c ∧ s.rejected.SoundIn c)
    (ht : t.selected.SoundIn c ∧ t.rejected.SoundIn c) :
    s.SameColumns t ↔
      s.selected.entries = t.selected.entries ∧ s.rejected.entries = t.rejected.entries := by
  rw [Columns.entries_inj hs.1.length_eq ht.1.length_eq,
    Columns.entries_inj hs.2.length_eq ht.2.length_eq]
  constructor
  · intro h
    exact ⟨⟨h.selected_elements, h.selected_counts⟩, h.rejected_elements, h.rejected_counts⟩
  · rintro ⟨⟨helements, hcounts⟩, helements', hcounts'⟩
    exact ⟨helements, hcounts, helements', hcounts'⟩

namespace Bag

variable {σ α : Type} {b : Bag α} {c : Comparator α} {cmp : α → α → Ordering}
  {rs : List (α × Nat)}

/-! ### The runs with an answer -/

theorem chosen_eq {β : Type} (wanted : Bool) (answers : List Bool) (xs : List β) :
    chosen wanted answers xs =
      ((xs.zip answers).filter fun x => x.2 == wanted).map Prod.fst := by
  induction xs generalizing answers with
  | nil => cases answers <;> rfl
  | cons x xs ih =>
    cases answers with
    | nil => rfl
    | cons answer answers =>
      rw [chosen, List.zip_cons_cons, List.filter_cons, ih]
      cases answer <;> cases wanted <;> rfl

/-- A plain predicate chooses what it accepts. -/
theorem chosen_map {β : Type} (wanted : Bool) (q : β → Bool) (xs : List β) :
    chosen wanted (xs.map q) xs = xs.filter fun x => q x == wanted := by
  induction xs with
  | nil => rfl
  | cons x xs ih =>
    rw [List.map_cons, chosen, List.filter_cons, ih]
    simp

/-- A class is not in both parts. -/
theorem findRun_chosen [Std.TransCmp cmp] (h : SortedRuns cmp rs) (answers : List Bool) (e : α) :
    findRun cmp e (chosen true answers rs) = none ∨
      findRun cmp e (chosen false answers rs) = none := by
  induction rs generalizing answers with
  | nil =>
    left
    cases answers <;> rfl
  | cons r rs ih =>
    cases answers with
    | nil => exact .inl rfl
    | cons answer answers =>
      by_cases hr : cmp r.1 e = .eq
      · have hrest : ∀ wanted, findRun cmp e (chosen wanted answers rs) = none := fun wanted =>
          findRun_of_gt fun s hs =>
            h.tail_gt (by rw [hr]; decide) s ((chosen_sublist wanted answers rs).subset hs)
        cases answer with
        | true => exact .inr (hrest false)
        | false => exact .inl (hrest true)
      · have htail := ih h.tail answers
        cases answer with
        | true =>
          rw [chosen, if_pos rfl, findRun_cons, if_neg hr]
          exact htail
        | false =>
          rw [chosen, chosen, if_neg (by decide), if_pos rfl, findRun_cons, if_neg hr]
          exact htail

/-! ### What is asked -/

theorem distribute_bind (p : Probe σ α) (runs : List (α × Nat)) (selected rejected : Builder α) :
    distribute p runs selected rejected =
      (runs.map Prod.fst).mapM p >>= fun answers =>
        pure (selected.addRuns (chosen true answers runs),
          rejected.addRuns (chosen false answers runs)) := by
  funext state
  exact distribute_eq p runs selected rejected state

/-- **All distinct elements, once each and in order.** -/
theorem asks_partitionM (hlen : b.counts.size = b.elements.size) (p : Probe σ α) (state : σ) :
    Asks (b.partitionM p) (b.partitionM p.logged) state b.distinctElements := by
  have hdistribute : Asks (distribute p b.entries (.empty b.comparator) (.empty b.comparator))
      (distribute p.logged b.entries (.empty b.comparator) (.empty b.comparator)) state
      b.distinctElements := by
    rw [distribute_bind, distribute_bind, Columns.map_fst_entries hlen]
    exact (p.asks_mapM b.elements.toList state).bind_pure _
  exact hdistribute.bind_pure _

/-! ### The two parts -/

/-- The parts of a bag by answers, of which there is one for every slot.  Each part has the runs of the
slots with its answer, as they stand in the bag and in the same order. -/
structure PartsByAnswers (b : Bag α) (answers : List Bool) (parts : Split α) : Prop where
  length_eq : answers.length = b.distinct
  selected_entries :
    parts.selected.entries = ((b.entries.zip answers).filter fun x => x.2).map Prod.fst
  rejected_entries :
    parts.rejected.entries = ((b.entries.zip answers).filter fun x => !x.2).map Prod.fst
  selected_wellFormed : parts.selected.WellFormed
  rejected_wellFormed : parts.rejected.WellFormed
  selected_comparator : parts.selected.comparator = b.comparator
  rejected_comparator : parts.rejected.comparator = b.comparator

theorem partsByAnswers_partitionM (h : b.SoundIn c) (p : Probe σ α) (state : σ) :
    b.PartsByAnswers (b.answers p state) ((b.partitionM p).run state).1.value := by
  obtain ⟨hselected, hrejected⟩ := soundIn_partitionM h p state
  obtain ⟨hyes, hno⟩ := entries_partitionM h p state
  exact {
    length_eq := b.length_answers p state
    selected_entries := by
      rw [hyes, chosen_eq]
      simp
    rejected_entries := by
      rw [hno, chosen_eq]
      simp
    selected_wellFormed := hselected.wellFormed
    rejected_wellFormed := hrejected.wellFormed
    selected_comparator := hselected.comparator_eq.trans h.comparator_eq.symm
    rejected_comparator := hrejected.comparator_eq.trans h.comparator_eq.symm }

/-- A class goes to one part, with all its occurrences. -/
theorem count_partitionM [Std.TransCmp c.compare] (h : b.SoundIn c) (p : Probe σ α) (state : σ)
    (e : α) :
    ((b.partitionM p).run state).1.value.selected.count e +
          ((b.partitionM p).run state).1.value.rejected.count e = b.count e ∧
      (((b.partitionM p).run state).1.value.selected.count e = 0 ∨
        ((b.partitionM p).run state).1.value.rejected.count e = 0) := by
  obtain ⟨hselected, hrejected⟩ := soundIn_partitionM h p state
  have hdeals := deals_partitionM h p state
  rw [hselected.count_eq, hrejected.count_eq, h.count_eq]
  refine ⟨hdeals.countRun_add h.sortedRuns e, ?_⟩
  obtain ⟨hyes, hno⟩ := entries_partitionM h p state
  rw [hyes, hno]
  rcases findRun_chosen h.sortedRuns (b.answers p state) e with hnone | hnone
  · left
    rw [countRun, hnone]
    rfl
  · right
    rw [countRun, hnone]
    rfl

/-! ### Partitions and prefixes -/

theorem entries_partitionM_ofPred (h : b.SoundIn c) (q : α → Bool) (state : σ) :
    ((b.partitionM (.ofPred q)).run state).1.value.selected.entries =
        b.entries.filter (fun r => q r.1) ∧
      ((b.partitionM (.ofPred q)).run state).1.value.rejected.entries =
        b.entries.filter fun r => !q r.1 := by
  have hanswers : b.answers (.ofPred q) state = b.entries.map fun r => q r.1 := by
    rw [answers, Probe.mapM_ofPred, ← Columns.map_fst_entries h.length_eq, List.map_map]
    rfl
  obtain ⟨hyes, hno⟩ := entries_partitionM h (.ofPred q) state
  rw [hyes, hno, hanswers, chosen_map, chosen_map]
  simp

theorem entries_spanM_ofPred (h : b.SoundIn c) (q : α → Bool) (state : σ) :
    ((b.spanM (.ofPred q)).run state).1.value.selected.entries =
        b.entries.takeWhile (fun r => q r.1) ∧
      ((b.spanM (.ofPred q)).run state).1.value.rejected.entries =
        b.entries.dropWhile fun r => q r.1 := by
  have hboundary : ((b.boundary (.ofPred q)).run state).1 =
      b.entries.findIdx fun r => !q r.1 := by
    rw [boundary, Probe.acceptedLength_eq, Probe.mapM_ofPred,
      ← Columns.map_fst_entries h.length_eq, List.map_map, List.findIdx_map]
    rfl
  obtain ⟨hbefore, hbehind⟩ := entries_spanM h (.ofPred q) state
  rw [hbefore, hbehind, hboundary, List.takeWhile_eq_take_findIdx_not,
    List.dropWhile_eq_drop_findIdx_not]
  exact ⟨rfl, rfl⟩

/-- A plain predicate splits a bag in the same way twice if it accepts nothing behind what it accepts
first. -/
theorem sameColumns_ofPred_iff (h : b.SoundIn c) (q : α → Bool) (state : σ) :
    ((b.partitionM (.ofPred q)).run state).1.value.SameColumns
        ((b.spanM (.ofPred q)).run state).1.value ↔
      ∀ x ∈ b.distinctElements.dropWhile q, q x = false := by
  obtain ⟨hyes, hno⟩ := entries_partitionM_ofPred h q state
  obtain ⟨htake, hdrop⟩ := entries_spanM_ofPred h q state
  have helements : b.distinctElements.dropWhile q =
      (b.entries.dropWhile fun r => q r.1).map Prod.fst := by
    rw [distinctElements, ← Columns.map_fst_entries h.length_eq, List.dropWhile_map]
    rfl
  rw [Split.sameColumns_iff (soundIn_partitionM h _ state) (soundIn_spanM h _ state), hyes, hno,
    htake, hdrop, filter_eq_takeWhile_iff, helements, List.forall_mem_map]

/-- **Partitions by answers.**  Whatever a probe remembers and in whatever state it is, it is asked about
every distinct element, once each and in ascending order, and every slot goes to the part of its answer.
So, if the comparator is a total preorder, every class is found in one part only and there as often as in
the bag.  Asked to split a bag with a plain predicate, `partitionM` and `spanM` give the same columns if and
only if nothing is accepted behind the first element that is not. -/
theorem partition_by_answers (hb : b.WellFormed) (p : Probe σ α) (state : σ) (q : α → Bool) :
    Asks (b.partitionM p) (b.partitionM p.logged) state b.distinctElements ∧
      b.PartsByAnswers (b.answers p state) ((b.partitionM p).run state).1.value ∧
      (Std.TransCmp b.comparator.compare → ∀ e,
        ((b.partitionM p).run state).1.value.selected.count e +
              ((b.partitionM p).run state).1.value.rejected.count e = b.count e ∧
          (((b.partitionM p).run state).1.value.selected.count e = 0 ∨
            ((b.partitionM p).run state).1.value.rejected.count e = 0)) ∧
      (((b.partitionM (.ofPred q)).run state).1.value.SameColumns
          ((b.spanM (.ofPred q)).run state).1.value ↔
        ∀ x ∈ b.distinctElements.dropWhile q, q x = false) := by
  have h := hb.soundIn
  exact ⟨asks_partitionM h.length_eq p state, partsByAnswers_partitionM h p state,
    fun _ => count_partitionM h p state, sameColumns_ofPred_iff h q state⟩

/-- A probe that says yes and no in turn, and two predicates: one accepts the last element after it has
rejected the one before, the other has a prefix of its own. -/
theorem partition_by_answers_inTurn :
    let b : Bag Nat := ⟨⟨#[12, 25, 31], #[2, 1, 3], .byKey 0 (· / 10), 6⟩⟩
    let p : Probe Bool Nat := fun _ => modifyGet fun said => (!said, !said)
    b.WellFormed ∧ b.answers p false = [true, false, true] ∧
      ((b.partitionM p).run false).1.value.selected.entries = [(12, 2), (31, 3)] ∧
      ((b.partitionM p.logged).run (false, [])).2 = (true, [12, 25, 31]) ∧
      (∀ e, ((b.partitionM p).run false).1.value.selected.count e +
        ((b.partitionM p).run false).1.value.rejected.count e = b.count e) ∧
      ¬((b.partitionM (.ofPred (· != 25))).run false).1.value.SameColumns
        ((b.spanM (.ofPred (· != 25))).run false).1.value ∧
      ((b.partitionM (.ofPred (· < 30))).run false).1.value.SameColumns
        ((b.spanM (.ofPred (· < 30))).run false).1.value := by
  intro b p
  have hb : b.WellFormed := by decide
  obtain ⟨hasks, hparts, hcount, hdiffer⟩ := partition_by_answers hb p false (· != 25)
  obtain ⟨-, -, -, hsame⟩ := partition_by_answers hb p false (· < 30)
  have hanswers : b.answers p false = [true, false, true] := by decide +kernel
  refine ⟨hb, hanswers, ?_, ?_, fun e => (hcount inferInstance e).1, ?_, hsame.mpr (by decide)⟩
  · rw [hparts.selected_entries, hanswers]
    decide
  · rw [hasks []]
    rfl
  · rw [hdiffer]
    decide

end Bag

end SortedMultiset
