import SortedMultiset.BagLike
import SortedMultiset.Runs

/-!
# Maps of counts

A `CountMap` assigns counts to elements, each element at most once and in no particular order.  As a
multiset it holds the elements with a positive count; an element that is assigned zero is as good as
absent.

* `CountMap.count_assign`: an assignment changes the count of its element and no other.
-/

namespace SortedMultiset

variable {α : Type}

/-- Pairs with the count of one element replaced, or the element appended. -/
def assignPairs [DecidableEq α] (e : α) (n : Nat) : List (α × Nat) → List (α × Nat)
  | [] => [(e, n)]
  | p :: ps => if p.1 = e then (e, n) :: ps else p :: assignPairs e n ps

theorem mem_map_fst_assignPairs [DecidableEq α] {e x : α} {n : Nat} {ps : List (α × Nat)} :
    x ∈ (assignPairs e n ps).map Prod.fst ↔ x = e ∨ x ∈ ps.map Prod.fst := by
  induction ps with
  | nil => simp [assignPairs]
  | cons p ps ih =>
    by_cases h : p.1 = e
    · simp [assignPairs, h]
    · simp only [assignPairs, h, if_false, List.map_cons, List.mem_cons, ih]
      exact or_left_comm

theorem nodup_assignPairs [DecidableEq α] {e : α} {n : Nat} {ps : List (α × Nat)}
    (h : (ps.map Prod.fst).Nodup) : ((assignPairs e n ps).map Prod.fst).Nodup := by
  induction ps with
  | nil => simp [assignPairs]
  | cons p ps ih =>
    rw [List.map_cons, List.nodup_cons] at h
    by_cases hp : p.1 = e
    · subst hp
      simpa [assignPairs] using h
    · simp only [assignPairs, hp, if_false, List.map_cons, List.nodup_cons]
      exact ⟨fun hm => (mem_map_fst_assignPairs.mp hm).elim hp h.1, ih h.2⟩

theorem lookup_assignPairs [DecidableEq α] {e x : α} {n : Nat} {ps : List (α × Nat)} :
    (assignPairs e n ps).lookup x = if x = e then some n else ps.lookup x := by
  induction ps with
  | nil => by_cases h : x = e <;> simp [assignPairs, List.lookup_cons, beq_eq_false_iff_ne.mpr, h]
  | cons p ps ih =>
    obtain ⟨a, k⟩ := p
    by_cases ha : a = e
    · subst ha
      by_cases hx : x = a <;> simp [assignPairs, List.lookup_cons, beq_eq_false_iff_ne.mpr, hx]
    · by_cases hx : x = a
      · subst hx
        simp [assignPairs, ha]
      · simp [assignPairs, ha, List.lookup_cons, beq_eq_false_iff_ne.mpr hx, ih]

/-- A finite assignment of counts to elements. -/
structure CountMap (α : Type) where
  pairs : List (α × Nat)
  nodup : (pairs.map Prod.fst).Nodup

namespace CountMap

/-- Nothing is assigned. -/
def empty : CountMap α := ⟨[], List.nodup_nil⟩

variable [DecidableEq α]

/-- Assigns a count to an element, whatever it was before. -/
def assign (m : CountMap α) (e : α) (n : Nat) : CountMap α :=
  ⟨assignPairs e n m.pairs, nodup_assignPairs m.nodup⟩

/-- Assigns the pairs of a list in turn. -/
def ofList (pairs : List (α × Nat)) : CountMap α :=
  pairs.foldl (fun m p => m.assign p.1 p.2) empty

/-- The count that is assigned to an element, zero if none is. -/
def count (m : CountMap α) (e : α) : Nat := (m.pairs.lookup e).getD 0

@[simp] theorem count_empty (e : α) : (empty : CountMap α).count e = 0 := rfl

theorem count_assign (m : CountMap α) (e x : α) (n : Nat) :
    (m.assign e n).count x = if x = e then n else m.count x := by
  rw [count, assign, lookup_assignPairs]
  split <;> rfl

/-- The pairs with a positive count. -/
def entries (m : CountMap α) : List (α × Nat) := m.pairs.filter fun p => p.2 ≠ 0

instance : BagLike (CountMap α) α where
  size m := total m.pairs
  distinct m := m.entries.length
  count m := m.count
  entries m := m.entries

end CountMap

end SortedMultiset
