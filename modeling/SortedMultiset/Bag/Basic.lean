import SortedMultiset.Columns

/-!
# Bags

A `Bag` is a frozen sorted multiset.  It never changes: whatever adds, removes or splits makes a new
bag that keeps the comparator of the old one.
-/

namespace SortedMultiset

/-- A frozen sorted multiset. -/
structure Bag (α : Type) extends Columns α

namespace Bag

variable {α : Type}

/-- The bag without elements. -/
def empty (c : Comparator α) : Bag α := ⟨.empty c⟩

/-- The bag of two columns of one length; the total is computed from the counts. -/
def assemble (elements : Array α) (counts : Array Nat) (c : Comparator α) : Bag α :=
  ⟨⟨elements, counts, c, sumCounts counts.toList⟩⟩

/-- No distinct elements. -/
def isEmpty (b : Bag α) : Bool := b.elements.isEmpty

/-- The expanded sequence: every element repeated by its count. -/
def toList (b : Bag α) : List α := expand b.entries

theorem length_toList {b : Bag α} (h : b.WellFormed) : b.toList.length = b.size := by
  rw [toList, length_expand, h.total_entries]

theorem wellFormed_empty (c : Comparator α) : (empty c).WellFormed := Columns.wellFormed_empty c

instance : SortedBagLike (Bag α) α where
  size b := b.size
  distinct b := b.distinct
  count b := b.count
  entries b := b.entries
  comparator b := b.comparator

end Bag

end SortedMultiset
