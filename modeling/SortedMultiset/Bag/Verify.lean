import SortedMultiset.Bag.Basic

/-!
# Checking a bag

`Bag.verify` checks that a bag keeps its promises and names the first that it breaks: the columns have
one length, all counts are positive, the counts add up to the cached total, neighbours ascend strictly.
-/

namespace SortedMultiset

/-- A promise that a bag breaks. -/
inductive Violation where
  /-- The columns differ in length. -/
  | lengths (elements counts : Nat)
  /-- Some count is zero. -/
  | zeroCount
  /-- The counts do not add up to the cached total. -/
  | total (sum size : Nat)
  /-- Two neighbours do not ascend but compare as told. -/
  | order (found : Ordering)
  deriving DecidableEq, Repr

namespace Violation

/-- The name of an ordering. -/
def orderingName : Ordering → String
  | .lt => "Less"
  | .eq => "Equal"
  | .gt => "Greater"

/-- Two values that should have been equal. -/
def unequal (remark left right : String) : String :=
  "assertion `left == right` failed" ++ remark ++ "\n  left: " ++ left ++ "\n right: " ++ right

/-- The text of a violation. -/
def message : Violation → String
  | lengths elements counts => unequal "" (toString elements) (toString counts)
  | zeroCount => "zero occurrence count"
  | total sum size => unequal "" (toString sum) (toString size)
  | order found =>
    unequal ": elements are not strictly ascending" (orderingName found) (orderingName .lt)

end Violation

variable {α : Type}

/-- The ordering of the first two neighbours that do not ascend. -/
def firstDescent (compare : α → α → Ordering) : List α → Option Ordering
  | a :: b :: rest =>
    if compare a b = .lt then firstDescent compare (b :: rest) else some (compare a b)
  | _ => none

/-- Checks a bag; names the first promise that it breaks. -/
def Bag.verify (b : Bag α) : Except Violation Unit :=
  if b.elements.size ≠ b.counts.size then .error (.lengths b.elements.size b.counts.size)
  else if b.counts.any (· == 0) then .error .zeroCount
  else if sumCounts b.counts.toList ≠ b.size then
    .error (.total (sumCounts b.counts.toList) b.size)
  else
    match firstDescent b.comparator.compare b.elements.toList with
    | some found => .error (.order found)
    | none => .ok ()

end SortedMultiset
