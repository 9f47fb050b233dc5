import SortedMultiset.Bag.Basic
import SortedMultiset.Cursor.Element
import SortedMultiset.Cursor.Range
import SortedMultiset.Cursor.Run

/-!
# Access by ordinal, and cursors

The elements of a bag are numbered by their place in the expanded sequence.  A range of ordinals
includes both its ends; it must end inside the bag, which is checked first, and must not be reversed.
-/

namespace SortedMultiset.Bag

variable {σ α : Type}

/-- The indexer of the counts, with the cached total. -/
def indexer (b : Bag α) : Indexer := ⟨b.counts, b.size⟩

/-- The ordinal of the first occurrence of an element. -/
def indexOf (b : Bag α) (e : α) : Option Nat := (b.search e).found?.map b.indexer.prefixSum

/-- The element at an ordinal. -/
protected def get (b : Bag α) (ordinal : Nat) : Except Error α := do
  let p ← b.indexer.position ordinal
  match b.elements[p.slot]? with
  | some e => return e
  | none => throw (.indexOutOfRange ordinal b.size)

/-! ### Cursors -/

/-- Walks the expanded sequence. -/
def elementCursor (b : Bag α) : ElementCursor α := .start b.toColumns

/-- Walks the runs. -/
def runCursor (b : Bag α) : RunCursor α := .start b.toColumns

/-- Walks the expanded sequence with ordinals. -/
def indexedCursor (b : Bag α) : RangeCursor α := .start b.toColumns ⟨0, 0⟩ 0 b.size

/-- Walks the ordinals from `first` to `last`, both included. -/
def rangeCursor (b : Bag α) (first last : Nat) : Except Error (RangeCursor α) := do
  requireIndex last b.size
  requireOrdered first last
  return .start b.toColumns (b.indexer.locate first) first (last + 1)

/-! ### Visits -/

/-- Visits the elements at the ordinals from `first` to `last`. -/
def forRange (b : Bag α) (first last : Nat) (visit : α → StateM σ Unit) :
    StateM σ (Except Error Unit) :=
  match b.rangeCursor first last with
  | .error e => return .error e
  | .ok c => .ok <$> (Cursor.drain c).1.forM fun item => visit item.1

/-- Visits the elements at the ordinals from `first` to `last`, each with its ordinal. -/
def forRangeWithIndex (b : Bag α) (first last : Nat) (visit : α → Nat → StateM σ Unit) :
    StateM σ (Except Error Unit) :=
  match b.rangeCursor first last with
  | .error e => return .error e
  | .ok c => .ok <$> (Cursor.drain c).1.forM fun item => visit item.1 item.2

/-- Visits every element with its ordinal. -/
def forEachWithIndex (b : Bag α) (visit : α → Nat → StateM σ Unit) : StateM σ Unit :=
  (Cursor.drain b.indexedCursor).1.forM fun item => visit item.1 item.2

end SortedMultiset.Bag
