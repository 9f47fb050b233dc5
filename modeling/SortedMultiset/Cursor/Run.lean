import SortedMultiset.Columns
import SortedMultiset.Cursor.Basic

/-!
# Cursors over runs

A `RunCursor` yields every distinct element with its count.
-/

namespace SortedMultiset

/-- A place between two runs. -/
structure RunCursor (α : Type) where
  columns : Columns α
  /-- The slot of the next run. -/
  slot : Nat

namespace RunCursor

variable {α : Type}

/-- The place before the first run. -/
def start (t : Columns α) : RunCursor α := ⟨t, 0⟩

def next? (c : RunCursor α) : Option ((α × Nat) × RunCursor α) :=
  (c.columns.elements[c.slot]?).map fun e =>
    ((e, c.columns.counts.getD c.slot 0), { c with slot := c.slot + 1 })

instance : Cursor (RunCursor α) (α × Nat) where
  next? := next?
  remaining c := c.columns.elements.size - c.slot

end RunCursor

end SortedMultiset
