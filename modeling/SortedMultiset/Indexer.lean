import SortedMultiset.Counts
import SortedMultiset.Error

/-!
# Ordinals and positions

An ordinal counts the places of an expanded sequence from zero.  A `Position` names the same place
by the slot whose run holds it and the offset inside that run.  An `Indexer` converts between the two
over a column of counts; zero counts are allowed and hold no place.

The size is carried along with the counts, so that a bag can hand over the total it has cached.
`Indexer.ofCounts` computes it.

* `locateIn`: walks the counts until the ordinal falls into a run;
* `Indexer.prefixSum`: the ordinals before a slot.
-/

namespace SortedMultiset

/-- A place of the expanded sequence: a slot and an offset into its run. -/
structure Position where
  slot : Nat
  offset : Nat
  deriving DecidableEq, Repr

/-- The position that lies `n` places after the start of the first run. -/
def locateIn : List Nat → Nat → Position
  | [], n => ⟨0, n⟩
  | count :: counts, n =>
    if n < count then ⟨0, n⟩
    else
      let rest := locateIn counts (n - count)
      ⟨rest.slot + 1, rest.offset⟩

/-- Converts between ordinals and positions over a column of counts. -/
structure Indexer where
  counts : Array Nat
  size : Nat
  deriving DecidableEq, Repr

namespace Indexer

/-- The indexer of a column of counts. -/
def ofCounts (counts : Array Nat) : Indexer := ⟨counts, sumCounts counts.toList⟩

/-- The number of places before slot `i`. -/
def prefixSum (x : Indexer) (i : Nat) : Nat := sumCounts (x.counts.toList.take i)

/-- The position of an ordinal that is known to be in range. -/
def locate (x : Indexer) (ordinal : Nat) : Position := locateIn x.counts.toList ordinal

/-- The position of an ordinal. -/
def position (x : Indexer) (ordinal : Nat) : Except Error Position := do
  requireIndex ordinal x.size
  return x.locate ordinal

/-- The ordinal of a position. -/
def ordinal (x : Indexer) (p : Position) : Except Error Nat := do
  requireIndex p.slot x.counts.size
  requireIndex p.offset (x.counts.getD p.slot 0)
  return x.prefixSum p.slot + p.offset

/-- The ordinal at which the run of a slot starts; the slot after the last gives the total. -/
def runStart (x : Indexer) (i : Nat) : Except Error Nat := do
  requireIndex i (x.counts.size + 1)
  return x.prefixSum i

end Indexer

/-! ### Where an ordinal falls -/

theorem locateIn_slot_lt {counts : List Nat} {n : Nat} (h : n < sumCounts counts) :
    (locateIn counts n).slot < counts.length := by
  induction counts generalizing n with
  | nil => simp at h
  | cons c cs ih =>
    rw [sumCounts_cons] at h
    by_cases hn : n < c
    · simp [locateIn, hn]
    · simpa [locateIn, hn] using ih (n := n - c) (by omega)

/-- The slot found holds the ordinal: it lies `offset` places after the run's start. -/
theorem sumCounts_take_locateIn {counts : List Nat} {n : Nat} :
    sumCounts (counts.take (locateIn counts n).slot) + (locateIn counts n).offset = n := by
  induction counts generalizing n with
  | nil => simp [locateIn]
  | cons c cs ih =>
    by_cases hn : n < c
    · simp [locateIn, hn]
    · have := ih (n := n - c)
      simp only [locateIn, hn, if_false, List.take_succ_cons, sumCounts_cons]
      omega

theorem locateIn_offset_lt {counts : List Nat} {n : Nat} (h : n < sumCounts counts) :
    (locateIn counts n).offset < counts.getD (locateIn counts n).slot 0 := by
  induction counts generalizing n with
  | nil => simp at h
  | cons c cs ih =>
    rw [sumCounts_cons] at h
    by_cases hn : n < c
    · simp [locateIn, hn]
    · simpa [locateIn, hn] using ih (n := n - c) (by omega)

end SortedMultiset
