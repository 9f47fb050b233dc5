import SortedMultiset.Columns
import SortedMultiset.Cursor.Basic

/-!
# Cursors over the expanded sequence

An `ElementCursor` yields every element as often as its count says.  It holds the slot of the current
run and how many of its occurrences are left; a run that is used up is left when the next element is
asked for, and only if there is a further slot.
-/

namespace SortedMultiset

/-- A place in the expanded sequence, seen from the columns. -/
structure ElementCursor (α : Type) where
  columns : Columns α
  /-- The current slot. -/
  slot : Nat
  /-- Occurrences of the current slot still to be yielded. -/
  left : Nat
  /-- Occurrences of all slots still to be yielded. -/
  remaining : Nat

namespace ElementCursor

variable {α : Type}

/-- The start of the expanded sequence. -/
def start (t : Columns α) : ElementCursor α := ⟨t, 0, t.counts.getD 0 0, t.size⟩

def next? (c : ElementCursor α) : Option (α × ElementCursor α) :=
  if c.left = 0 then
    if c.slot + 1 < c.columns.elements.size then
      (c.columns.elements[c.slot + 1]?).map fun e =>
        (e, { c with
          slot := c.slot + 1
          left := c.columns.counts.getD (c.slot + 1) 0 - 1
          remaining := c.remaining - 1 })
    else none
  else
    (c.columns.elements[c.slot]?).map fun e =>
      (e, { c with left := c.left - 1, remaining := c.remaining - 1 })

instance : Cursor (ElementCursor α) α where
  next? := next?
  remaining := ElementCursor.remaining

end ElementCursor

end SortedMultiset
