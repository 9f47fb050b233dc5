import SortedMultiset.Order

/-!
# Whatever counts elements

Bags come in several forms: a frozen bag, a builder, a plain map of counts.  `BagLike β α` is what
they have in common: how many elements there are, how many of them are distinct, how often one
occurs, and a listing of the distinct elements with their counts.  Equality and the content hash are
defined from that alone, so they work across forms.

* `BagLike.equals`: as many distinct elements, and every one of the left occurs as often in the right;
* `BagLike.digest`: the sum of one hash per entry, taken modulo 2⁶⁴, so the order of the listing does
  not matter.
-/

namespace SortedMultiset

/-- A multiset of elements of `α` in some form `β`. -/
class BagLike (β : Type) (α : outParam Type) where
  /-- The number of elements, counting duplicates. -/
  size : β → Nat
  /-- The number of distinct elements. -/
  distinct : β → Nat
  /-- How often an element occurs. -/
  count : β → α → Nat
  /-- The distinct elements, each with its count. -/
  entries : β → List (α × Nat)

/-- A multiset that is kept in the order of a comparator. -/
class SortedBagLike (β : Type) (α : outParam Type) extends BagLike β α where
  comparator : β → Comparator α

namespace BagLike

variable {α β γ σ : Type} [BagLike β α] [BagLike γ α]

def isEmpty (x : β) : Bool := size x == 0

/-- Both hold the same elements equally often, as far as the entries of the left show. -/
def equals (x : β) (y : γ) : Bool :=
  distinct x == distinct y && (entries x).all fun e => count y e.1 == e.2

/-- The content hash under an element hash `h`. -/
def digest (h : α → UInt64) (x : β) : UInt64 :=
  (entries x).foldl (fun acc e => acc + (h e.1 ^^^ UInt64.ofNat e.2)) 0

/-- Visits every entry in the order of the listing. -/
def forEach (x : β) (visit : α → Nat → StateM σ Unit) : StateM σ Unit :=
  (entries x).forM fun e => visit e.1 e.2

end BagLike

end SortedMultiset
