import SortedMultiset.Builder
import SortedMultiset.CountMap
import SortedMultiset.Declaration

/-!
# Any multiset

A `Holding` is a multiset in any of the forms there are, and a multiset again: what is defined for all
forms applies to mixtures of them.  `Sorted` leaves out the maps of counts, which have no order.
-/

namespace SortedMultiset

/-- A multiset that carries a comparator, in any form. -/
inductive Sorted (α : Type) where
  | bag (b : Bag α)
  | builder (b : Builder α)
  | declaration (d : Declaration α)

/-- A multiset in any form. -/
inductive Holding (α : Type) where
  | sorted (s : Sorted α)
  | counts (m : CountMap α)

variable {α : Type} [DecidableEq α]

instance : SortedBagLike (Sorted α) α where
  size
    | .bag b => BagLike.size b
    | .builder b => BagLike.size b
    | .declaration d => BagLike.size d
  distinct
    | .bag b => BagLike.distinct b
    | .builder b => BagLike.distinct b
    | .declaration d => BagLike.distinct d
  count
    | .bag b => BagLike.count b
    | .builder b => BagLike.count b
    | .declaration d => BagLike.count d
  entries
    | .bag b => BagLike.entries b
    | .builder b => BagLike.entries b
    | .declaration d => BagLike.entries d
  comparator
    | .bag b => b.comparator
    | .builder b => b.comparator
    | .declaration d => d.comparator

instance : BagLike (Holding α) α where
  size
    | .sorted s => BagLike.size s
    | .counts m => BagLike.size m
  distinct
    | .sorted s => BagLike.distinct s
    | .counts m => BagLike.distinct m
  count
    | .sorted s => BagLike.count s
    | .counts m => BagLike.count m
  entries
    | .sorted s => BagLike.entries s
    | .counts m => BagLike.entries m

end SortedMultiset
