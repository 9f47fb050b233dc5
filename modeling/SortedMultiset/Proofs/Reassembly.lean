import SortedMultiset.Proofs.Bulk
import SortedMultiset.Proofs.Bag.Split

/-!
# Splitting and putting together again

The parts of a bag, however it is split, deal out its runs, and sound parts that deal out the runs of a
bag give it back: what one part holds, added to the other, is the bag, and what one part holds, removed
from the bag, is the other (`Bag.Reassembles`).  The bag is given back as it was, with its
representatives, since a run that is cut has the same one in both parts.
-/

namespace SortedMultiset.Bag

variable {σ α : Type} {b l r : Bag α} {c : Comparator α}

/-- Two parts are the bag when put together, and each is what the other leaves of it. -/
structure Reassembles (b l r : Bag α) : Prop where
  insert_right : (l.insertAll r.toList).value = b
  insert_left : (r.insertAll l.toList).value = b
  erase_right : (b.eraseAll r.toList).value = l
  erase_left : (b.eraseAll l.toList).value = r

section Deals

variable [Std.TransCmp c.compare]

theorem insertAll_of_deals (hb : b.SoundIn c) (hl : l.SoundIn c) (hr : r.SoundIn c)
    (hd : Deals b.entries l.entries r.entries) : (l.insertAll r.toList).value = b := by
  refine ext_entries (soundIn_insertAll hl _) hb ?_
  rw [entries_insertAll hl]
  exact hd.addItems_expand hb.sortedRuns hl.sortedRuns hr.sortedRuns

theorem eraseAll_of_deals (hb : b.SoundIn c) (hl : l.SoundIn c) (hr : r.SoundIn c)
    (hd : Deals b.entries l.entries r.entries) : (b.eraseAll r.toList).value = l := by
  refine ext_entries (soundIn_eraseAll hb _) hl ?_
  rw [entries_eraseAll hb]
  exact hd.removeItems_expand hb.sortedRuns hl.sortedRuns hr.sortedRuns

/-- **Parts that deal out the runs of a bag** reassemble it. -/
theorem reassembles_of_deals (hb : b.SoundIn c) (hl : l.SoundIn c) (hr : r.SoundIn c)
    (hd : Deals b.entries l.entries r.entries) : b.Reassembles l r where
  insert_right := insertAll_of_deals hb hl hr hd
  insert_left := insertAll_of_deals hb hr hl hd.swap
  erase_right := eraseAll_of_deals hb hl hr hd
  erase_left := eraseAll_of_deals hb hr hl hd.swap

end Deals

/-- **Splitting loses nothing and makes nothing up.**  Whether a sound bag is cut at an ordinal, run by
run by the answers of a probe, or before the first run that a probe rejects, its parts reassemble it. -/
theorem split_reassembles [Std.TransCmp b.comparator.compare] (hb : b.WellFormed) (n : Nat)
    (p : Probe σ α) (state : σ) :
    b.Reassembles (b.take n).value (b.drop n).value ∧
    b.Reassembles ((b.partitionM p).run state).1.value.selected
      ((b.partitionM p).run state).1.value.rejected ∧
    b.Reassembles ((b.spanM p).run state).1.value.selected
      ((b.spanM p).run state).1.value.rejected := by
  have h := hb.soundIn
  obtain ⟨hselected, hrejected⟩ := soundIn_partitionM h p state
  obtain ⟨hbefore, hbehind⟩ := soundIn_spanM h p state
  exact ⟨reassembles_of_deals h (soundIn_take h n) (soundIn_drop h n) (deals_take_drop h n),
    reassembles_of_deals h hselected hrejected (deals_partitionM h p state),
    reassembles_of_deals h hbefore hbehind (deals_spanM h p state)⟩

/-- Numbers by tens, cut inside a run, and split by a probe that rejects its first question only. -/
theorem split_reassembles_byTens :
    let b : Bag Nat := ⟨⟨#[12, 25], #[2, 1], .byKey 0 (· / 10), 3⟩⟩
    let p : Probe Bool Nat := fun _ => do
      let asked ← get
      set true
      return asked
    b.WellFormed ∧ (b.take 1).value.entries = [(12, 1)] ∧
      (b.drop 1).value.entries = [(12, 1), (25, 1)] ∧
      b.Reassembles (b.take 1).value (b.drop 1).value ∧
      ((b.partitionM p).run false).1.value.rejected.entries = [(12, 2)] ∧
      b.Reassembles ((b.partitionM p).run false).1.value.selected
        ((b.partitionM p).run false).1.value.rejected := by
  intro b p
  have hwf : b.WellFormed := by decide
  obtain ⟨hcut, hpartition, -⟩ := split_reassembles hwf 1 p false
  exact ⟨hwf, by decide +kernel, by decide +kernel, hcut, by decide +kernel, hpartition⟩

end SortedMultiset.Bag
