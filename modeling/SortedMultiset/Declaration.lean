import SortedMultiset.BagLike

/-!
# Declared multisets

A `Declaration` is a sorted multiset that is whatever it says: a list of entries, a size and a
comparator, of which nothing need fit together.  It stands for an arbitrary foreign source.
-/

namespace SortedMultiset

/-- A source that answers what it was told to. -/
structure Declaration (α : Type) where
  entries : List (α × Nat)
  size : Nat
  comparator : Comparator α

namespace Declaration

variable {α : Type} [DecidableEq α]

/-- The count in the first entry of an element. -/
def count (d : Declaration α) (e : α) : Nat := (d.entries.lookup e).getD 0

instance : SortedBagLike (Declaration α) α where
  size d := d.size
  distinct d := d.entries.length
  count d := d.count
  entries d := d.entries
  comparator d := d.comparator

end Declaration

end SortedMultiset
