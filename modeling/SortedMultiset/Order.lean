/-!
# Comparators

A `Comparator` is an order together with an identity.  Two comparators may order alike and still be
different objects, so the identity is a `label` that whoever makes the comparator supplies; bags
derived from one another keep the whole comparator and with it the label.

The laws of an order are not part of the type, since any function may be supplied.  Theorems ask for
`Std.TransCmp c.compare` (a total preorder) and, where `Equal` must mean identical, for
`Std.LawfulEqCmp c.compare`.
-/

namespace SortedMultiset

/-- An order over `α` with the identity `label`. -/
structure Comparator (α : Type) where
  label : Nat
  compare : α → α → Ordering

namespace Comparator

variable {α κ : Type}

/-- The natural order of `α`. -/
def natural [Ord α] (label : Nat) : Comparator α := ⟨label, Ord.compare⟩

/-- Orders elements by a key derived from each. -/
def byKey [Ord κ] (label : Nat) (key : α → κ) : Comparator α := ⟨label, compareOn key⟩

/-- The inverse order, a comparator of its own. -/
def reversed (c : Comparator α) (label : Nat) : Comparator α :=
  ⟨label, fun a b => c.compare b a⟩

/-- Both are one and the same object. -/
def sameObject (c d : Comparator α) : Bool := c.label == d.label

@[simp] theorem compare_reversed (c : Comparator α) (label : Nat) (a b : α) :
    (c.reversed label).compare a b = c.compare b a := rfl

instance [Ord α] [Std.TransOrd α] (label : Nat) :
    Std.TransCmp (natural label : Comparator α).compare :=
  inferInstanceAs (Std.TransCmp (Ord.compare : α → α → Ordering))

instance [Ord κ] [Std.TransOrd κ] (label : Nat) (key : α → κ) :
    Std.TransCmp (byKey label key).compare :=
  inferInstanceAs (Std.TransCmp (compareOn key))

instance [Ord α] [Std.LawfulEqOrd α] (label : Nat) :
    Std.LawfulEqCmp (natural label : Comparator α).compare :=
  inferInstanceAs (Std.LawfulEqCmp (Ord.compare : α → α → Ordering))

instance (c : Comparator α) (label : Nat) [h : Std.TransCmp c.compare] :
    Std.TransCmp (c.reversed label).compare :=
  h.opposite

instance (c : Comparator α) (label : Nat) [Std.OrientedCmp c.compare]
    [h : Std.LawfulEqCmp c.compare] : Std.LawfulEqCmp (c.reversed label).compare :=
  h.opposite

@[simp] theorem sameObject_self (c : Comparator α) : c.sameObject c = true := by
  simp [sameObject]

end Comparator

end SortedMultiset
