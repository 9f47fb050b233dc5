import SortedMultiset.Proofs.Bag.Split

/-!
# Rebuilding a range of slots

The runs of a range of slots are put one by one into a builder that starts empty (`Bag.runsBuilder`).
Every time the builder is searched anew, and nothing tells it that the runs come in order.  They do, and
so the search ends behind all slots that it has by then (`Bag.appendsSlot`): what has been put in before
are elements that stand before this one in the bag, hence lesser ones.  That the comparator obeys any
laws is nowhere needed.

* `Bag.runs_rebuilt`: what the builder holds in between and in the end, and what it freezes to.
-/

namespace SortedMultiset

variable {α : Type} {c : Comparator α} {lo hi k : Nat} {e : α} {n : Nat}

theorem insertIdxIfInBounds_size (xs : Array α) (a : α) :
    xs.insertIdxIfInBounds xs.size a = xs.push a := by
  rw [Array.insertIdxIfInBounds, dif_pos (Nat.le_refl _), Array.insertIdx_size_self]

/-- **An addition at the end** appends a slot. -/
theorem Builder.addMany_at_end {b : Builder α} (hn : n ≠ 0) (hs : b.search e = .absent b.distinct)
    (hlen : b.counts.size = b.elements.size) :
    (b.addMany e n).elements = b.elements.push e ∧ (b.addMany e n).counts = b.counts.push n := by
  simp only [Builder.addMany, hn, hs, if_false]
  constructor
  · exact insertIdxIfInBounds_size b.elements e
  · show b.counts.insertIdxIfInBounds b.elements.size n = b.counts.push n
    rw [← hlen]
    exact insertIdxIfInBounds_size b.counts n

namespace Bag

variable {b : Bag α} {t : Columns α} {r : α × Nat}

/-! ### What is held in the end -/

/-- The columns are those of the bag from slot `lo` to before slot `hi`. -/
structure HoldsSlots (b : Bag α) (lo hi : Nat) (t : Columns α) : Prop where
  elements_eq : t.elements = b.elements.extract lo hi
  counts_eq : t.counts = b.counts.extract lo hi
  size_eq : t.size = sumCounts (b.counts.extract lo hi).toList
  comparator_eq : t.comparator = b.comparator

theorem holdsSlots_of_entries (h : b.SoundIn c) (ht : t.SoundIn c)
    (he : t.entries = (b.entries.drop lo).take (hi - lo)) : b.HoldsSlots lo hi t := by
  have helements : t.elements = b.elements.extract lo hi := by
    rw [← Array.toList_inj, Array.toList_extract, List.extract_eq_take_drop,
      ← Columns.map_fst_entries h.length_eq, ← List.map_drop, ← List.map_take, ← he,
      Columns.map_fst_entries ht.length_eq]
  have hcounts : t.counts = b.counts.extract lo hi := by
    rw [← Array.toList_inj, Array.toList_extract, List.extract_eq_take_drop,
      ← Columns.map_snd_entries h.length_eq, ← List.map_drop, ← List.map_take, ← he,
      Columns.map_snd_entries ht.length_eq]
  refine ⟨helements, hcounts, ?_, ht.comparator_eq.trans h.comparator_eq.symm⟩
  rw [← hcounts]
  exact ht.wellFormed.size_eq

theorem holdsSlots_runsBuilder (h : b.SoundIn c) (lo hi : Nat) :
    b.HoldsSlots lo hi (b.runsBuilder lo hi).toColumns :=
  holdsSlots_of_entries h (soundIn_runsBuilder h lo hi) (entries_runsBuilder h lo hi)

theorem holdsSlots_slice (h : b.SoundIn c) (lo hi : Nat) :
    b.HoldsSlots lo hi (b.slice lo hi).value.toColumns :=
  holdsSlots_of_entries h (soundIn_slice h lo hi) (entries_slice h lo hi)

theorem HoldsSlots.distinct_eq (h : b.HoldsSlots lo hi t) (hhi : hi ≤ b.distinct) :
    t.distinct = hi - lo := by
  rw [Columns.distinct, h.elements_eq, Array.size_extract]
  exact congrArg (· - lo) (Nat.min_eq_left hhi)

/-! ### What happens in between -/

theorem runsBuilder_self (b : Bag α) (lo : Nat) : b.runsBuilder lo lo = .empty b.comparator := by
  rw [runsBuilder, Nat.sub_self, List.take_zero]
  rfl

theorem slots_succ (hk : lo ≤ k) (hr : b.entries[k]? = some r) :
    (b.entries.drop lo).take (k + 1 - lo) = (b.entries.drop lo).take (k - lo) ++ [r] := by
  rw [Nat.sub_add_comm hk, List.take_add_one, List.getElem?_drop, Nat.add_sub_cancel' hk, hr]
  rfl

/-- One more slot is one more addition. -/
theorem runsBuilder_succ (hk : lo ≤ k) (hr : b.entries[k]? = some r) :
    b.runsBuilder lo (k + 1) = (b.runsBuilder lo k).addMany r.1 r.2 := by
  rw [runsBuilder, slots_succ hk hr, Builder.addRuns, List.foldl_append]
  rfl

/-- **The search for the next element** ends behind all slots. -/
theorem search_runsBuilder (h : b.SoundIn c) (hk : lo ≤ k) (hr : b.entries[k]? = some r) :
    (b.runsBuilder lo k).search r.1 = .absent (b.runsBuilder lo k).distinct := by
  -- with the next one, the slots are still a part of the bag, so it is greater than all of them
  have hsorted := sortedRuns_slots h lo (k + 1 - lo)
  rw [slots_succ hk hr] at hsorted
  refine (soundIn_runsBuilder h lo k).search_of_all_lt fun s hs => ?_
  rw [entries_runsBuilder h lo k] at hs
  exact (List.pairwise_append.mp hsorted.ascending).2.2 s hs r List.mem_cons_self

/-- A builder that has the slots from `lo` to before `k` takes in slot `k`, which holds `n` of `x`: it does
not find `x` and appends it. -/
structure AppendsSlot (b : Bag α) (lo k : Nat) (x : α) (n : Nat) : Prop where
  element : b.elements[k]? = some x
  count : b.counts[k]? = some n
  step : b.runsBuilder lo (k + 1) = (b.runsBuilder lo k).addMany x n
  distinct_eq : (b.runsBuilder lo k).distinct = k - lo
  search_eq : (b.runsBuilder lo k).search x = .absent (b.runsBuilder lo k).distinct
  elements_eq : (b.runsBuilder lo (k + 1)).elements = (b.runsBuilder lo k).elements.push x
  counts_eq : (b.runsBuilder lo (k + 1)).counts = (b.runsBuilder lo k).counts.push n

/-- **The next slot is appended.** -/
theorem appendsSlot (h : b.SoundIn c) (hk : lo ≤ k) (hlt : k < b.distinct) :
    ∃ x n, b.AppendsSlot lo k x n := by
  have hentry : k < b.entries.length := Nat.lt_of_lt_of_eq hlt h.elements_size
  have hr : b.entries[k]? = some b.entries[k] := List.getElem?_eq_getElem hentry
  have hstep := runsBuilder_succ hk hr
  have hsearch := search_runsBuilder h hk hr
  have hpos : b.entries[k].2 ≠ 0 := Nat.ne_of_gt (h.sortedRuns.positive _ (List.getElem_mem hentry))
  obtain ⟨helements, hcounts⟩ :=
    Builder.addMany_at_end hpos hsearch (soundIn_runsBuilder h lo k).length_eq
  have hdistinct := (holdsSlots_runsBuilder h lo k).distinct_eq (Nat.le_of_lt hlt)
  obtain ⟨helement, hcount⟩ := Columns.getElem?_entries.mp hr
  exact ⟨_, _, helement, hcount, hstep, hdistinct, hsearch, hstep ▸ helements, hstep ▸ hcounts⟩

/-- **Rebuilding runs is slicing.**  The builder starts empty.  Whatever slots it has been given, the
next one is not found among them and goes to the end, so that no run is merged with another, put before
it or lost.  In the end the builder has just the slots of the range, and it freezes to the bag that has
these. -/
theorem runs_rebuilt (hb : b.WellFormed) (hlo : lo ≤ hi) (hhi : hi ≤ b.distinct) :
    b.runsBuilder lo lo = .empty b.comparator ∧
    (∀ k, lo ≤ k → k < hi → ∃ x n, b.AppendsSlot lo k x n) ∧
    lo + (b.runsBuilder lo hi).distinct = hi ∧
    b.HoldsSlots lo hi (b.runsBuilder lo hi).toColumns ∧
    b.HoldsSlots lo hi (b.slice lo hi).value.toColumns := by
  have h := hb.soundIn
  have hbuilder := holdsSlots_runsBuilder h lo hi
  refine ⟨b.runsBuilder_self lo, fun k hk hlt => ?_, ?_, hbuilder, holdsSlots_slice h lo hi⟩
  · exact appendsSlot h hk (Nat.lt_of_lt_of_le hlt hhi)
  · rw [hbuilder.distinct_eq hhi, Nat.add_sub_cancel' hlo]

/-- The two slots in the middle of four, the greater of them last. -/
theorem runs_rebuilt_middle :
    let b : Bag Nat := ⟨⟨#[31, 25, 12, 4], #[2, 1, 3, 5], (Comparator.byKey 0 (· / 10)).reversed 1, 11⟩⟩
    b.WellFormed ∧ b.AppendsSlot 1 2 12 3 ∧ (b.runsBuilder 1 2).search 12 = .absent 1 ∧
      (b.runsBuilder 1 3).elements = #[25, 12] ∧ (b.runsBuilder 1 3).counts = #[1, 3] ∧
      (b.slice 1 3).value.elements = #[25, 12] ∧ (b.slice 1 3).value.size = 4 := by
  intro b
  have hb : b.WellFormed := by decide
  obtain ⟨-, hsteps, hdistinct, hbuilder, hslice⟩ :=
    runs_rebuilt hb (show 1 ≤ 3 by decide) (show 3 ≤ b.distinct by decide)
  obtain ⟨x, n, hstep⟩ := hsteps 2 (by decide) (by decide)
  obtain rfl : 12 = x := Option.some.inj hstep.element
  obtain rfl : 3 = n := Option.some.inj hstep.count
  have hend : (b.runsBuilder 1 2).search 12 = .absent 1 :=
    hstep.search_eq.trans (congrArg Slot.absent hstep.distinct_eq)
  exact ⟨hb, hstep, hend, hbuilder.elements_eq, hbuilder.counts_eq, hslice.elements_eq,
    hslice.size_eq⟩

end Bag

end SortedMultiset
