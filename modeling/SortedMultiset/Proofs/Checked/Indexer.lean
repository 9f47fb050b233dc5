import SortedMultiset.Proofs.Checked.Word
import SortedMultiset.Proofs.Indexer

/-!
# Indexers on words

An indexer walks its counts without looking where they end: `Indexer.checkedLocate` reads one count after
the other, and only that the ordinal is below the total keeps it inside.  While it walks, what is left of
the ordinal is below the sum of the counts from its slot on (`Indexer.checkedLocateFrom_eq`); so there is
a count to read, and a difference is only taken where the count is not greater.

Whatever counts there are, zeros among them, all operations do what they would do on numbers
(`Indexer.Fits.safe`), as long as the total is a word.
-/

namespace SortedMultiset.Indexer

open Checked

variable {x : Indexer} {counts : Array Nat} {i slot offset : Nat}

/-! ### The operations on words -/

/-- The indexer of a column of counts, added up. -/
def checkedOfCounts (counts : Array Nat) : Checked Indexer := do
  let size ← sum counts.toList
  return ⟨counts, size⟩

/-- What was read at a slot and gone on from is not read again. -/
theorem slots_decrease {count next : Nat} (hcount : index counts slot = .ok count)
    (hnext : add slot 1 = .ok next) : counts.size - next < counts.size - slot := by
  have hslot := lt_of_index_eq_ok hcount
  have hadd := eq_of_add_eq_ok hnext
  omega

/-- Walks from a slot on, with what is left of the ordinal. -/
def checkedLocateFrom (counts : Array Nat) (slot offset : Nat) : Checked Position :=
  match _ : index counts slot with
  | .error fault => .error fault
  | .ok count =>
    if count ≤ offset then
      match sub offset count, _ : add slot 1 with
      | .error fault, _ => .error fault
      | .ok _, .error fault => .error fault
      | .ok rest, .ok next => checkedLocateFrom counts next rest
    else .ok ⟨slot, offset⟩
termination_by counts.size - slot
decreasing_by exact slots_decrease ‹_› ‹_›

/-- The position of an ordinal that is known to be in range. -/
def checkedLocate (x : Indexer) (ordinal : Nat) : Checked Position :=
  checkedLocateFrom x.counts 0 ordinal

/-- The number of places before a slot. -/
def checkedPrefixSum (x : Indexer) (i : Nat) : Checked Nat := do
  let counts ← before x.counts i
  sum counts.toList

/-- The position of an ordinal. -/
def checkedPosition (x : Indexer) (ordinal : Nat) : Checked (Except Error Position) :=
  guardedBy (requireIndex ordinal x.size) do
    let p ← x.checkedLocate ordinal
    return .ok p

/-- The ordinal of a position. -/
def checkedOrdinal (x : Indexer) (p : Position) : Checked (Except Error Nat) :=
  guardedBy (requireIndex p.slot x.counts.size) do
    let count ← index x.counts p.slot
    guardedBy (requireIndex p.offset count) do
      let start ← x.checkedPrefixSum p.slot
      let ordinal ← add start p.offset
      return .ok ordinal

/-- The ordinal at which the run of a slot starts. -/
def checkedRunStart (x : Indexer) (i : Nat) : Checked (Except Error Nat) := do
  let places ← add x.counts.size 1
  guardedBy (requireIndex i places) do
    let start ← x.checkedPrefixSum i
    return .ok start

/-! ### No operation stops -/

/-- An indexer whose total is that of its counts and a word. -/
structure Fits (x : Indexer) : Prop where
  size_eq : x.size = sumCounts x.counts.toList
  size_lt : x.size < wordSize
  addressable : Addressable x.counts

theorem checkedOfCounts_eq (h : sumCounts counts.toList < wordSize) :
    checkedOfCounts counts = .ok (ofCounts counts) := by
  unfold checkedOfCounts
  rw [sum_eq h]
  rfl

/-- **The walk stays inside**, since what is left of the ordinal is below what is left of the counts. -/
theorem checkedLocateFrom_eq (hcounts : Addressable counts)
    (h : offset < sumCounts (counts.toList.drop slot)) :
    checkedLocateFrom counts slot offset =
      .ok ⟨slot + (locateIn (counts.toList.drop slot) offset).slot,
        (locateIn (counts.toList.drop slot) offset).offset⟩ := by
  induction hrest : counts.toList.drop slot generalizing slot offset with
  | nil =>
    rw [hrest] at h
    exact absurd h (Nat.not_lt_zero _)
  | cons count rest ih =>
    rw [hrest, sumCounts_cons] at h
    have hget : counts[slot]? = some count := by
      rw [← Array.getElem?_toList, ← List.head?_drop, hrest]
      rfl
    have htail : counts.toList.drop (slot + 1) = rest := by
      rw [← List.tail_drop, hrest]
      rfl
    have hslot : slot ≤ counts.size := Nat.le_of_lt (Array.getElem?_eq_some_iff.mp hget).1
    rw [checkedLocateFrom, index_eq hget, locateIn]
    dsimp only
    by_cases hle : count ≤ offset
    · have hlt : offset - count < sumCounts (counts.toList.drop (slot + 1)) := by
        rw [htail]
        omega
      rw [if_pos hle, if_neg (Nat.not_lt.mpr hle), sub_eq hle, add_eq (hcounts.lt hslot)]
      dsimp only
      rw [ih hlt htail, Nat.add_assoc, Nat.add_comm 1]
    · rw [if_neg hle, if_pos (Nat.lt_of_not_le hle)]
      rfl

namespace Fits

variable (h : x.Fits)
include h

theorem checkedLocate_eq (hi : i < x.size) : x.checkedLocate i = .ok (x.locate i) := by
  have hlt : i < sumCounts (x.counts.toList.drop 0) := by
    rw [List.drop_zero, ← h.size_eq]
    exact hi
  rw [checkedLocate, checkedLocateFrom_eq h.addressable hlt, List.drop_zero, Nat.zero_add]
  rfl

theorem prefixSum_le (i : Nat) : x.prefixSum i ≤ x.size := by
  rw [h.size_eq]
  exact sumCounts_take_le i _

theorem checkedPrefixSum_eq (hi : i ≤ x.counts.size) :
    x.checkedPrefixSum i = .ok (x.prefixSum i) := by
  have htake : (x.counts.extract 0 i).toList = x.counts.toList.take i := by simp
  have hsum : sumCounts (x.counts.toList.take i) < wordSize :=
    Nat.lt_of_le_of_lt (h.prefixSum_le i) h.size_lt
  rw [checkedPrefixSum, before_eq hi, ok_bind, htake, sum_eq hsum]
  rfl

theorem checkedPosition_eq (i : Nat) : x.checkedPosition i = .ok (x.position i) := by
  unfold checkedPosition position
  by_cases hi : i < x.size
  · rw [requireIndex_of_lt hi]
    show (x.checkedLocate i >>= _) = _
    rw [h.checkedLocate_eq hi]
    rfl
  · rw [requireIndex_of_le (Nat.le_of_not_lt hi)]
    rfl

theorem checkedOrdinal_eq (p : Position) : x.checkedOrdinal p = .ok (x.ordinal p) := by
  unfold checkedOrdinal ordinal
  by_cases hslot : p.slot < x.counts.size
  · rw [requireIndex_of_lt hslot]
    show (index x.counts p.slot >>= _) = _
    rw [index_eq_getD hslot 0, ok_bind]
    by_cases hoffset : p.offset < x.counts.getD p.slot 0
    · have hp : x.Inside p := ⟨hslot, hoffset⟩
      have hlt : x.placesBefore p < wordSize :=
        Nat.lt_trans hp.placesBefore_lt_total (h.size_eq ▸ h.size_lt)
      rw [requireIndex_of_lt hoffset]
      show (x.checkedPrefixSum p.slot >>= _) = _
      rw [h.checkedPrefixSum_eq (Nat.le_of_lt hslot), ok_bind, add_eq hlt]
      rfl
    · rw [requireIndex_of_le (Nat.le_of_not_lt hoffset)]
      rfl
  · rw [requireIndex_of_le (Nat.le_of_not_lt hslot)]
    rfl

theorem checkedRunStart_eq (i : Nat) : x.checkedRunStart i = .ok (x.runStart i) := by
  unfold checkedRunStart runStart
  rw [add_eq (h.addressable.lt (Nat.le_refl _)), ok_bind]
  by_cases hi : i < x.counts.size + 1
  · rw [requireIndex_of_lt hi]
    show (x.checkedPrefixSum i >>= _) = _
    rw [h.checkedPrefixSum_eq (Nat.le_of_lt_succ hi)]
    rfl
  · rw [requireIndex_of_le (Nat.le_of_not_lt hi)]
    rfl

end Fits

/-- An indexer that never stops at a fault, and answers what is out of range by an error. -/
structure Safe (x : Indexer) : Prop where
  locate : ∀ i < x.size, x.checkedLocate i = .ok (x.locate i)
  position : ∀ i, x.checkedPosition i = .ok (x.position i)
  position_refused : ∀ i, x.size ≤ i →
    x.checkedPosition i = .ok (.error (.indexOutOfRange i x.size))
  ordinal : ∀ p, x.checkedOrdinal p = .ok (x.ordinal p)
  slot_refused : ∀ p : Position, x.counts.size ≤ p.slot →
    x.checkedOrdinal p = .ok (.error (.indexOutOfRange p.slot x.counts.size))
  offset_refused : ∀ p : Position, p.slot < x.counts.size → x.counts.getD p.slot 0 ≤ p.offset →
    x.checkedOrdinal p = .ok (.error (.indexOutOfRange p.offset (x.counts.getD p.slot 0)))
  runStart : ∀ i, x.checkedRunStart i = .ok (x.runStart i)
  runStart_refused : ∀ i, x.counts.size < i →
    x.checkedRunStart i = .ok (.error (.indexOutOfRange i (x.counts.size + 1)))

/-- **Indexers whose total is a word are safe.** -/
theorem Fits.safe (h : x.Fits) : x.Safe where
  locate _ hi := h.checkedLocate_eq hi
  position := h.checkedPosition_eq
  position_refused i hi := by rw [h.checkedPosition_eq, position_of_le hi]
  ordinal := h.checkedOrdinal_eq
  slot_refused p hslot := by rw [h.checkedOrdinal_eq, ordinal_of_slot hslot]
  offset_refused p hslot hoffset := by rw [h.checkedOrdinal_eq, ordinal_of_offset hslot hoffset]
  runStart := h.checkedRunStart_eq
  runStart_refused i hi := by rw [h.checkedRunStart_eq, runStart_of_lt hi]

theorem fits_ofCounts (hcounts : Addressable counts) (h : sumCounts counts.toList < wordSize) :
    (ofCounts counts).Fits :=
  ⟨rfl, h, hcounts⟩

end SortedMultiset.Indexer
