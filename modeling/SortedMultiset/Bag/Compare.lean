import SortedMultiset.Bag.Access

/-!
# Comparing bags

Bags are compared as the sequences they stand for: lexicographically, element by element, by the
comparator of the left one.  A proper prefix comes first.  The right side is listed in its own order.

Neither sequence is written out.  The left one comes from a cursor over the bag, the right one run by run,
and the walk along both ends at the first difference.
-/

namespace SortedMultiset

variable {α β κ : Type}

/-- Compares what a cursor yields with the sequence that runs stand for, item by item, up to the first
difference.  The side that ends first is less. -/
def Cursor.compareAlong [Cursor κ α] (compare : α → α → Ordering) (c : κ) :
    List (α × Nat) → Ordering
  | [] => if (next? c).isSome then .gt else .eq
  | (_, 0) :: runs => compareAlong compare c runs
  | (y, n + 1) :: runs =>
    match next? c with
    | none => .lt
    | some (x, c') =>
      match compare x y with
      | .eq => compareAlong compare c' ((y, n) :: runs)
      | found => found
termination_by runs => total runs + runs.length

namespace Bag

/-- The order of a bag relative to a sorted multiset. -/
def compareTo [SortedBagLike β α] (b : Bag α) (other : β) : Ordering :=
  Cursor.compareAlong b.comparator.compare b.elementCursor (BagLike.entries other)

/-- The content hash of a bag as an element of other bags. -/
def digest (b : Bag α) (h : α → UInt64) : UInt64 := BagLike.digest h b

end Bag

end SortedMultiset
