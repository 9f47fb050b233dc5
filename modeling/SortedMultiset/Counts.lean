/-!
# Sums of counts

`sumCounts` adds up a column of counts.  It is the total of a bag, and over the first counts of a column
it is the ordinal at which a run starts.

* `sumCounts_append`: columns one after the other;
* `sumCounts_take_le`: a part is at most the whole.
-/

namespace SortedMultiset

/-- The sum of a column of counts. -/
def sumCounts : List Nat → Nat
  | [] => 0
  | n :: counts => n + sumCounts counts

@[simp] theorem sumCounts_nil : sumCounts [] = 0 := rfl

@[simp] theorem sumCounts_cons (n : Nat) (counts : List Nat) :
    sumCounts (n :: counts) = n + sumCounts counts := rfl

@[simp] theorem sumCounts_append (xs ys : List Nat) :
    sumCounts (xs ++ ys) = sumCounts xs + sumCounts ys := by
  induction xs with
  | nil => simp
  | cons n xs ih => simp [ih, Nat.add_assoc]

/-- Positive counts add up to nothing only if there are none. -/
theorem sumCounts_eq_zero_iff {counts : List Nat} (h : ∀ n ∈ counts, 0 < n) :
    sumCounts counts = 0 ↔ counts = [] := by
  cases counts with
  | nil => exact iff_of_true rfl rfl
  | cons n counts =>
    have hpos := h n (by simp)
    refine iff_of_false ?_ (List.cons_ne_nil n counts)
    rw [sumCounts_cons]
    omega

theorem sumCounts_take_add_drop (i : Nat) (counts : List Nat) :
    sumCounts (counts.take i) + sumCounts (counts.drop i) = sumCounts counts := by
  rw [← sumCounts_append, List.take_append_drop]

theorem sumCounts_take_le (i : Nat) (counts : List Nat) :
    sumCounts (counts.take i) ≤ sumCounts counts := by
  rw [← sumCounts_take_add_drop i counts]
  exact Nat.le_add_right _ _

end SortedMultiset
