import SortedMultiset.Proofs.Bag.Ordinals

/-!
# Both sides of an ordinal

`Bag.take` and `Bag.drop` look for the same ordinal but not together, and each has its own way with the
ends of the bag and with a cut that falls between two runs.  Still they are the two sides of one cut of
the expanded sequence, and no run but the one that is cut is changed.

The sizes of the parts are the lengths of their sequences, so these need no account of how the builders
add up (`Bag.size_take`, `Bag.size_drop`).  What is asked of the comparator is only that it finds the
elements of the bag to ascend.

* `Bag.cutInTwo_take_drop`: the two parts of a sound bag, as sequences and as runs.
-/

namespace SortedMultiset.Bag

variable {α : Type} {b : Bag α} {c : Comparator α} {n : Nat}

/-! ### Sizes -/

theorem size_take (h : b.SoundIn c) (n : Nat) : (b.take n).value.size = min n b.size := by
  rw [← length_toList (soundIn_take h n).wellFormed, toList_take h, List.length_take,
    length_toList h.wellFormed]

theorem size_drop (h : b.SoundIn c) (n : Nat) : (b.drop n).value.size = b.size - n := by
  rw [← length_toList (soundIn_drop h n).wellFormed, toList_drop h, List.length_drop,
    length_toList h.wellFormed]

/-! ### The two parts -/

/-- The parts of a bag before an ordinal and from it on. -/
structure CutInTwo (b : Bag α) (n : Nat) (before behind : Bag α) : Prop where
  before_wellFormed : before.WellFormed
  behind_wellFormed : behind.WellFormed
  before_comparator : before.comparator = b.comparator
  behind_comparator : behind.comparator = b.comparator
  before_toList : before.toList = b.toList.take (min n b.size)
  behind_toList : behind.toList = b.toList.drop (min n b.size)
  before_size : before.size = min n b.size
  behind_size : behind.size = b.size - min n b.size
  /-- Inside the bag one run is cut, and what lies behind the cut is never nothing. -/
  runs : n < b.size → ∃ pre r offset post, b.CutsAt n pre r offset post ∧
    before.entries = pre ++ (if offset = 0 then [] else [(r.1, offset)]) ∧
    behind.entries = (r.1, r.2 - offset) :: post ∧ 0 < r.2 - offset
  at_start : n = 0 → before = .empty b.comparator ∧ behind = b
  /-- Beyond the end is as good as the end. -/
  beyond : b.size ≤ n → before = b ∧ behind = .empty b.comparator

/-- **Taking and dropping cut a bag in two.**  For every ordinal, the first part stands for the elements
before it and the second for those from it on; runs are kept as they are, but for the one that is
cut. -/
theorem cutInTwo_take_drop (hb : b.WellFormed) (n : Nat) :
    b.CutInTwo n (b.take n).value (b.drop n).value := by
  have h := hb.soundIn
  have hbefore := soundIn_take h n
  have hbehind := soundIn_drop h n
  exact {
    before_wellFormed := hbefore.wellFormed
    behind_wellFormed := hbehind.wellFormed
    before_comparator := hbefore.comparator_eq
    behind_comparator := hbehind.comparator_eq
    before_toList := by rw [toList_take h, List.take_eq_take_min, length_toList hb]
    behind_toList := by rw [toList_drop h, List.drop_eq_drop_min, length_toList hb]
    before_size := size_take h n
    behind_size := by
      rw [size_drop h]
      omega
    runs := fun hn => by
      obtain ⟨pre, r, offset, post, hcut⟩ := exists_cutsAt h hn
      exact ⟨pre, r, offset, post, hcut, entries_take h hn hcut, entries_drop h hn hcut,
        Nat.sub_pos_of_lt hcut.offset_lt⟩
    at_start := fun h0 => by
      unfold take drop
      rw [if_pos h0, if_pos h0]
      exact ⟨rfl, rfl⟩
    beyond := take_drop_beyond hb }

/-- Numbers by tens, cut inside a run, between two runs and beyond the end. -/
theorem cutInTwo_take_drop_byTens :
    let b : Bag Nat := ⟨⟨#[12, 25, 31], #[2, 3, 1], .byKey 0 (· / 10), 6⟩⟩
    b.WellFormed ∧ b.CutInTwo 4 (b.take 4).value (b.drop 4).value ∧
      (b.take 4).value.entries = [(12, 2), (25, 2)] ∧
      (b.drop 4).value.entries = [(25, 1), (31, 1)] ∧
      (b.take 2).value.toList = [12, 12] ∧ (b.drop 2).value.size = 4 ∧
      (b.take 7).value = b ∧ (b.drop 0).value = b := by
  intro b
  have hb : b.WellFormed := by decide
  have hcut := cutInTwo_take_drop hb
  exact ⟨hb, hcut 4, by decide +kernel, by decide +kernel, (hcut 2).before_toList, (hcut 2).behind_size,
    ((hcut 7).beyond (by decide)).1, ((hcut 0).at_start rfl).2⟩

end SortedMultiset.Bag
