import SortedMultiset.Counts

/-!
# Runs

A run is an element with the number of its occurrences, and a list of runs stands for the sequence
in which every element is repeated as often as its run says (`expand`).

`compareRuns` compares two such sequences lexicographically without writing them out: it consumes
the shorter of the two leading runs at once.  `compareRuns_eq_compareLex` says that it is the
lexicographic comparison of the expansions.
-/

namespace SortedMultiset

variable {α : Type}

/-- Every element repeated by its count. -/
def expand (runs : List (α × Nat)) : List α :=
  runs.flatMap fun r => List.replicate r.2 r.1

/-- The number of occurrences in all runs. -/
def total (runs : List (α × Nat)) : Nat :=
  sumCounts (runs.map Prod.snd)

@[simp] theorem expand_nil : expand ([] : List (α × Nat)) = [] := rfl

@[simp] theorem expand_cons (r : α × Nat) (runs : List (α × Nat)) :
    expand (r :: runs) = List.replicate r.2 r.1 ++ expand runs := rfl

@[simp] theorem expand_append (xs ys : List (α × Nat)) :
    expand (xs ++ ys) = expand xs ++ expand ys := by
  simp [expand]

@[simp] theorem total_nil : total ([] : List (α × Nat)) = 0 := rfl

@[simp] theorem total_cons (r : α × Nat) (runs : List (α × Nat)) :
    total (r :: runs) = r.2 + total runs := by
  simp [total]

theorem total_append (xs ys : List (α × Nat)) : total (xs ++ ys) = total xs + total ys := by
  rw [total, List.map_append, sumCounts_append]
  rfl

theorem length_expand (runs : List (α × Nat)) : (expand runs).length = total runs := by
  induction runs with
  | nil => rfl
  | cons r runs ih => simp [ih]

/-- Written out, runs of elements with a property give elements with it. -/
theorem forall_mem_expand {P : α → Prop} {runs : List (α × Nat)} (h : ∀ r ∈ runs, P r.1) :
    ∀ x ∈ expand runs, P x := by
  intro x hx
  obtain ⟨r, hr, hxr⟩ := List.mem_flatMap.mp hx
  rw [List.eq_of_mem_replicate hxr]
  exact h r hr

/-! ### Lexicographic comparison -/

/-- Compares the expansions of two lists of runs lexicographically; a proper prefix is less. -/
def compareRuns (compare : α → α → Ordering) : List (α × Nat) → List (α × Nat) → Ordering
  | [], [] => .eq
  | (_, 0) :: xs, ys => compareRuns compare xs ys
  | xs, (_, 0) :: ys => compareRuns compare xs ys
  | [], (_, _ + 1) :: _ => .lt
  | (_, _ + 1) :: _, [] => .gt
  | (a, m + 1) :: xs, (b, n + 1) :: ys =>
    match compare a b with
    | .lt => .lt
    | .gt => .gt
    | .eq =>
      if m ≤ n then compareRuns compare xs ((b, n - m) :: ys)
      else compareRuns compare ((a, m - n) :: xs) ys
termination_by xs ys => xs.length + ys.length

/-- A run is the run of its first `k` occurrences and that of the others. -/
theorem replicate_split {k n : Nat} (h : k ≤ n) (a : α) :
    List.replicate n a = List.replicate k a ++ List.replicate (n - k) a := by
  rw [List.replicate_append_replicate, Nat.add_sub_cancel' h]

theorem compareLex_replicate_append {compare : α → α → Ordering} {a b : α} (h : compare a b = .eq)
    (n : Nat) (xs ys : List α) :
    List.compareLex compare (List.replicate n a ++ xs) (List.replicate n b ++ ys) =
      List.compareLex compare xs ys := by
  induction n with
  | zero => rfl
  | succ n ih => simpa [List.replicate_succ, List.compareLex_cons_cons, h] using ih

/-- **Comparison without expansion.**  Comparing runs is comparing the sequences they stand for. -/
theorem compareRuns_eq_compareLex (compare : α → α → Ordering) (xs ys : List (α × Nat)) :
    compareRuns compare xs ys = List.compareLex compare (expand xs) (expand ys) := by
  fun_induction compareRuns compare xs ys with
  | case1 => rfl
  | case2 ys a xs ih => simpa using ih
  | case3 xs b ys _ ih => simpa using ih
  | case4 b n ys => simp [List.replicate_succ, List.compareLex_nil_cons]
  | case5 a m xs => simp [List.replicate_succ, List.compareLex_cons_nil]
  | case6 a m xs b n ys h =>
    simp [List.replicate_succ, List.compareLex_cons_cons, h]
  | case7 a m xs b n ys h =>
    simp [List.replicate_succ, List.compareLex_cons_cons, h]
  | case8 a m xs b n ys h hle ih =>
    rw [ih, expand_cons, expand_cons, expand_cons, replicate_split (Nat.succ_le_succ hle) b,
      List.append_assoc, compareLex_replicate_append h, Nat.succ_sub_succ]
  | case9 a m xs b n ys h hle ih =>
    rw [ih, expand_cons, expand_cons, expand_cons,
      replicate_split (Nat.succ_le_succ (Nat.le_of_not_le hle)) a, List.append_assoc,
      compareLex_replicate_append h, Nat.succ_sub_succ]

end SortedMultiset
