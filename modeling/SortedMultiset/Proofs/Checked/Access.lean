import SortedMultiset.Proofs.Bag.Access
import SortedMultiset.Proofs.Checked.Cursor
import SortedMultiset.Proofs.Checked.Indexer

/-!
# Access by ordinal on words

A bag hands its cached total to its indexer, so an ordinal below the total is below the sum of the counts,
and its position is a slot of the bag (`Bag.CutsAt`).  A range of ordinals that ends inside the bag ends
before the total, which is a word, and so is the ordinal behind the end.  Ordinals and ranges that are not
inside are answered by errors before anything is read.
-/

namespace SortedMultiset.Bag

open Checked (ok_bind add_eq guardedBy guardedBy_ok guardedBy_error)

variable {α : Type} {b : Bag α} {c : Comparator α} {e : α} {i first last : Nat}

/-! ### The operations on words -/

/-- The element at an ordinal. -/
def checkedGet (b : Bag α) (ordinal : Nat) : Checked (Except Error α) := do
  match ← b.indexer.checkedPosition ordinal with
  | .error cause => return .error cause
  | .ok p =>
    let e ← Checked.index b.elements p.slot
    return .ok e

/-- The ordinal of the first occurrence of an element. -/
def checkedIndexOf (b : Bag α) (e : α) : Checked (Option Nat) :=
  match b.search e with
  | .absent _ => return none
  | .found i => do
    let ordinal ← b.indexer.checkedPrefixSum i
    return some ordinal

/-- Walks the ordinals from `first` to `last`, both included. -/
def checkedRangeCursor (b : Bag α) (first last : Nat) : Checked (Except Error (RangeCursor α)) :=
  guardedBy (requireIndex last b.size) <| guardedBy (requireOrdered first last) do
    let p ← b.indexer.checkedLocate first
    let stop ← Checked.add last 1
    let cursor ← RangeCursor.checkedStart b.toColumns p first stop
    return .ok cursor

/-- Walks the expanded sequence with ordinals. -/
def checkedIndexedCursor (b : Bag α) : Checked (RangeCursor α) :=
  RangeCursor.checkedStart b.toColumns ⟨0, 0⟩ 0 b.size

/-! ### No operation stops -/

theorem fits_indexer (h : b.SoundIn c) (hfits : b.Fits) : b.indexer.Fits :=
  ⟨h.wellFormed.size_eq, hfits.size_lt, hfits.addressable⟩

theorem checkedGet_eq (h : b.SoundIn c) (hfits : b.Fits) (i : Nat) :
    b.checkedGet i = .ok (b.get i) := by
  unfold checkedGet Bag.get
  rw [(fits_indexer h hfits).checkedPosition_eq, ok_bind]
  by_cases hi : i < b.size
  · obtain ⟨pre, r, offset, post, hcut⟩ := exists_cutsAt h hi
    rw [hcut.position_eq hi]
    dsimp only [bind, Except.bind]
    rw [Columns.index_elements hcut.entries_eq, Columns.getElem?_elements hcut.entries_eq]
    rfl
  · have hposition : b.indexer.position i = .error (.indexOutOfRange i b.size) :=
      Indexer.position_of_le (Nat.le_of_not_lt hi)
    rw [hposition]
    rfl

theorem checkedIndexOf_eq (h : b.SoundIn c) (hfits : b.Fits) (e : α) :
    b.checkedIndexOf e = .ok (b.indexOf e) := by
  unfold checkedIndexOf indexOf
  cases hs : b.search e with
  | absent i => rfl
  | found i =>
    have hi : i ≤ b.indexer.counts.size := Nat.le_of_lt (h.wellFormed.balanced.found_lt hs).2
    dsimp only
    rw [(fits_indexer h hfits).checkedPrefixSum_eq hi]
    rfl

theorem checkedRangeCursor_eq (h : b.SoundIn c) (hfits : b.Fits) (first last : Nat) :
    b.checkedRangeCursor first last = .ok (b.rangeCursor first last) := by
  unfold checkedRangeCursor
  by_cases hlast : last < b.size
  · rw [requireIndex_of_lt hlast, guardedBy_ok]
    by_cases hle : first ≤ last
    · have hfirst := Nat.lt_of_le_of_lt hle hlast
      have hword : last + 1 < wordSize := Nat.lt_of_le_of_lt hlast hfits.size_lt
      obtain ⟨pre, r, offset, post, hcut⟩ := exists_cutsAt h hfirst
      have hoffset : offset ≤ b.counts.getD pre.length 0 := by
        rw [Columns.getD_counts hcut.entries_eq]
        exact Nat.le_of_lt hcut.offset_lt
      rw [requireOrdered_of_le hle, guardedBy_ok, rangeCursor_eq_ok hlast hle,
        (fits_indexer h hfits).checkedLocate_eq hfirst, ok_bind, add_eq hword, ok_bind,
        hcut.locate_eq, RangeCursor.checkedStart_eq hoffset]
      rfl
    · rw [requireOrdered_of_lt (Nat.lt_of_not_le hle), guardedBy_error,
        rangeCursor_of_lt hlast (Nat.lt_of_not_le hle)]
  · rw [requireIndex_of_le (Nat.le_of_not_lt hlast), guardedBy_error,
      rangeCursor_of_le (Nat.le_of_not_lt hlast)]

theorem checkedIndexedCursor_eq (b : Bag α) : b.checkedIndexedCursor = .ok b.indexedCursor :=
  RangeCursor.checkedStart_eq (Nat.zero_le _)

/-! ### Where cursors stand -/

theorem stands_indexedCursor (h : b.SoundIn c) (hfits : b.Fits) :
    RangeCursor.Stands b.toColumns b.indexedCursor := by
  unfold indexedCursor RangeCursor.start
  dsimp only
  cases he : b.entries with
  | nil =>
    have hsize : b.size = 0 := by rw [← h.total_entries, he, total_nil]
    exact .atEnd (Nat.le_of_eq hsize)
  | cons r post =>
    have he' : b.entries = [] ++ r :: post := he
    have hsize := h.size_eq_append he'
    rw [total_nil, total_cons] at hsize
    have hcount : b.counts.getD 0 0 = r.2 := Columns.getD_counts he'
    rw [hcount]
    exact .inRun he' (by omega) hfits.size_lt

theorem stands_rangeCursor (h : b.SoundIn c) (hfits : b.Fits) {cursor : RangeCursor α}
    (hcursor : b.rangeCursor first last = .ok cursor) :
    RangeCursor.Stands b.toColumns cursor := by
  by_cases hlast : last < b.size
  · by_cases hle : first ≤ last
    · rw [rangeCursor_eq_ok hlast hle] at hcursor
      obtain rfl := Except.ok.inj hcursor
      obtain ⟨pre, r, offset, post, hcut⟩ := exists_cutsAt h (Nat.lt_of_le_of_lt hle hlast)
      have hsize := h.size_eq_append hcut.entries_eq
      rw [total_cons] at hsize
      have hfirst := hcut.total_add
      have hoffset := hcut.offset_lt
      unfold RangeCursor.start
      rw [hcut.locate_eq]
      dsimp only
      rw [Columns.getD_counts hcut.entries_eq]
      exact .inRun hcut.entries_eq (by omega) (Nat.lt_of_le_of_lt hlast hfits.size_lt)
    · rw [rangeCursor_of_lt hlast (Nat.lt_of_not_le hle)] at hcursor
      cases hcursor
  · rw [rangeCursor_of_le (Nat.le_of_not_lt hlast)] at hcursor
    cases hcursor

end SortedMultiset.Bag
