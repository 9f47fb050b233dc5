import SortedMultiset.Columns
import SortedMultiset.Cursor.Basic

/-!
# Cursors over a range of ordinals

A `RangeCursor` yields the elements at the ordinals of a range, each with its ordinal.  It starts at
the position of the first ordinal and stops at the end of the range, whatever is left of the run then.
-/

namespace SortedMultiset

/-- A place in a range of the expanded sequence. -/
structure RangeCursor (α : Type) where
  columns : Columns α
  /-- The current slot. -/
  slot : Nat
  /-- Occurrences of the current slot still to be yielded. -/
  left : Nat
  /-- The ordinal of the next element. -/
  ordinal : Nat
  /-- The ordinal after the range. -/
  stop : Nat

namespace RangeCursor

variable {α : Type}

/-- The start of the range of ordinals from `first` to before `stop`; `p` is the position of
`first`. -/
def start (t : Columns α) (p : Position) (first stop : Nat) : RangeCursor α :=
  ⟨t, p.slot, t.counts.getD p.slot 0 - p.offset, first, stop⟩

def next? (c : RangeCursor α) : Option ((α × Nat) × RangeCursor α) :=
  if c.ordinal < c.stop then
    let slot := if c.left = 0 then c.slot + 1 else c.slot
    let left := if c.left = 0 then c.columns.counts.getD (c.slot + 1) 0 else c.left
    (c.columns.elements[slot]?).map fun e =>
      ((e, c.ordinal), { c with slot, left := left - 1, ordinal := c.ordinal + 1 })
  else none

instance : Cursor (RangeCursor α) (α × Nat) where
  next? := next?
  remaining c := c.stop - c.ordinal

end RangeCursor

end SortedMultiset
