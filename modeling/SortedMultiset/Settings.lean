import SortedMultiset.Error
import SortedMultiset.Order

/-!
# Settings

`Settings` say how a bag is to be built: by which comparator, if one was supplied, and with room for
how many distinct elements.  The room is a hint that no result depends on.  The comparator is asked
for late, by `Settings.resolve`, which fails when none was supplied.
-/

namespace SortedMultiset

/-- How a bag is to be built. -/
structure Settings (α : Type) where
  /-- The order, if one was supplied. -/
  comparator? : Option (Comparator α) := none
  /-- How many distinct elements to make room for. -/
  capacity : Nat := 0

namespace Settings

variable {α : Type}

/-- No order yet. -/
def unordered : Settings α := {}

/-- The natural order of `α`. -/
def natural [Ord α] (label : Nat) : Settings α := { comparator? := some (.natural label) }

def withComparator (s : Settings α) (c : Comparator α) : Settings α :=
  { s with comparator? := some c }

def withCapacity (s : Settings α) (n : Nat) : Settings α :=
  { s with capacity := n }

/-- The comparator that was supplied. -/
def resolve (s : Settings α) : Except Error (Comparator α) :=
  match s.comparator? with
  | some c => .ok c
  | none => .error (.configuration "no comparator supplied and no natural order selected")

theorem resolve_eq_ok_iff {s : Settings α} {c : Comparator α} :
    s.resolve = .ok c ↔ s.comparator? = some c := by
  cases h : s.comparator? <;> simp [resolve, h]

@[simp] theorem resolve_withCapacity (s : Settings α) (n : Nat) :
    (s.withCapacity n).resolve = s.resolve := rfl

@[simp] theorem resolve_withComparator (s : Settings α) (c : Comparator α) :
    (s.withComparator c).resolve = .ok c := rfl

end Settings

end SortedMultiset
