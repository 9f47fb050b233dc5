import SortedMultiset.Bag.Basic
import SortedMultiset.Cursor.Element
import SortedMultiset.Probe

/-!
# Scans

Questions about the elements of a bag that a probe decides.  Each asks about the distinct elements in
ascending order, once each, and stops as soon as the answer is settled.  `Bag.corresponds` goes through
the expanded sequence instead, side by side with a list.
-/

namespace SortedMultiset.Bag

variable {σ α γ : Type}

/-- The distinct elements in ascending order. -/
def distinctElements (b : Bag α) : List α := b.elements.toList

/-- Every element is accepted. -/
def allM (b : Bag α) (p : Probe σ α) : StateM σ Bool := b.distinctElements.allM p

/-- Some element is accepted. -/
def anyM (b : Bag α) (p : Probe σ α) : StateM σ Bool := b.distinctElements.anyM p

/-- No element is accepted. -/
def noneM (b : Bag α) (p : Probe σ α) : StateM σ Bool :=
  return !(← b.distinctElements.anyM p)

/-- The first accepted element. -/
def findM? (b : Bag α) (p : Probe σ α) : StateM σ (Option α) := b.distinctElements.findM? p

/-- The ordinal of the first occurrence of the first accepted element. -/
def findOrdinalM? (b : Bag α) (p : Probe σ α) : StateM σ (Option Nat) :=
  return (← p.firstSlot b.distinctElements).map fun i => sumCounts (b.counts.toList.take i)

/-- Asks about the items of a cursor and of a list in step, until a pair is rejected. -/
def matchesAlong (p : α → γ → StateM σ Bool) : ElementCursor α → List γ → StateM σ Bool
  | _, [] => return true
  | c, y :: ys =>
    match c.next? with
    | none => return true
    | some (x, c') => do
      if ← p x y then matchesAlong p c' ys
      else return false

/-- The list has one item for every element of the expanded sequence, and no pair is rejected.  With a
list of another length nothing is asked. -/
def corresponds (b : Bag α) (items : List γ) (p : α → γ → StateM σ Bool) : StateM σ Bool :=
  if items.length = b.size then matchesAlong p (.start b.toColumns) items
  else return false

end SortedMultiset.Bag
