import SortedMultiset.Bag.Basic
import SortedMultiset.Error

/-!
# Least and greatest elements

Under the bag's own order these are the ends of the column.  Under another order every distinct element
is looked at; of several least elements the first is taken, of several greatest the last.
-/

namespace SortedMultiset

variable {α κ : Type}

/-- The first of the least elements of a list. -/
def leastBy? (compare : α → α → Ordering) : List α → Option α
  | [] => none
  | a :: as =>
    some (as.foldl (fun least x => if compare least x = .gt then x else least) a)

/-- The last of the greatest elements of a list. -/
def greatestBy? (compare : α → α → Ordering) : List α → Option α
  | [] => none
  | a :: as =>
    some (as.foldl (fun greatest x => if compare greatest x = .gt then greatest else x) a)

namespace Bag

/-- An element that must be there for `operation`. -/
def orEmpty (operation : String) : Option α → Except Error α
  | some a => .ok a
  | none => .error (.emptyState operation)

def first (b : Bag α) : Except Error α := orEmpty "first" b.elements[0]?

def last (b : Bag α) : Except Error α := orEmpty "last" b.elements.back?

/-- The least element under the bag's own order. -/
protected def min (b : Bag α) : Except Error α := orEmpty "min" b.elements[0]?

/-- The greatest element under the bag's own order. -/
protected def max (b : Bag α) : Except Error α := orEmpty "max" b.elements.back?

/-- The least element under another order. -/
def minBy (b : Bag α) (compare : α → α → Ordering) : Except Error α :=
  orEmpty "min_by" (leastBy? compare b.elements.toList)

/-- The greatest element under another order. -/
def maxBy (b : Bag α) (compare : α → α → Ordering) : Except Error α :=
  orEmpty "max_by" (greatestBy? compare b.elements.toList)

/-- The element with the least key. -/
def minByKey [Ord κ] (b : Bag α) (key : α → κ) : Except Error α :=
  orEmpty "min_by_key" (leastBy? (compareOn key) b.elements.toList)

/-- The element with the greatest key. -/
def maxByKey [Ord κ] (b : Bag α) (key : α → κ) : Except Error α :=
  orEmpty "max_by_key" (greatestBy? (compareOn key) b.elements.toList)

end Bag

end SortedMultiset
