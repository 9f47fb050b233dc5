import Mathlib.Tactic.SplitIfs
import SortedMultiset.Runs

/-!
# Sorted runs

The runs of a sound layout are *sorted*: their elements ascend strictly and their counts are
positive. An order `cmp` that is a total preorder sorts elements into classes (`cmp a b = .eq`), and
sorted runs hold at most one run for each class, the run of its representative.

The edits of a multiset, written on runs by recursion, with no columns, slots or searches in them:

* `findRun`: the run of the class of an element;
* `addRun`: `n` occurrences more; the representative that is there stays;
* `removeRun`: `n` occurrences less; a run that is used up goes.

What an edit does to the runs of all classes is said by `findRun_addRun` and `findRun_removeRun`,
and since sorted runs with the same run for every class are the same (`SortedRuns.ext`), that is all
there is to say about an edit.
-/

namespace SortedMultiset

variable {α : Type} {cmp : α → α → Ordering} {e x : α} {m n : Nat} {r : α × Nat}
  {rs : List (α × Nat)}

/-- Runs with strictly ascending elements and positive counts. -/
structure SortedRuns (cmp : α → α → Ordering) (rs : List (α × Nat)) : Prop where
  ascending : rs.Pairwise fun r s => cmp r.1 s.1 = .lt
  positive : ∀ r ∈ rs, 0 < r.2

/-- The run of the class of an element. -/
def findRun (cmp : α → α → Ordering) (e : α) (rs : List (α × Nat)) : Option (α × Nat) :=
  rs.find? fun r => cmp r.1 e == .eq

/-- The runs with `n` more occurrences of an element, where `n` is positive. -/
def insertRun (cmp : α → α → Ordering) (e : α) (n : Nat) : List (α × Nat) → List (α × Nat)
  | [] => [(e, n)]
  | r :: rs =>
    match cmp r.1 e with
    | .lt => r :: insertRun cmp e n rs
    | .eq => (r.1, r.2 + n) :: rs
    | .gt => (e, n) :: r :: rs

/-- The runs with `n` more occurrences of an element. -/
def addRun (cmp : α → α → Ordering) (e : α) (n : Nat) (rs : List (α × Nat)) : List (α × Nat) :=
  if n = 0 then rs else insertRun cmp e n rs

/-- The runs with `n` occurrences of an element less, as far as there are any. -/
def removeRun (cmp : α → α → Ordering) (e : α) (n : Nat) : List (α × Nat) → List (α × Nat)
  | [] => []
  | r :: rs =>
    match cmp r.1 e with
    | .lt => r :: removeRun cmp e n rs
    | .eq => if n < r.2 then (r.1, r.2 - n) :: rs else rs
    | .gt => r :: rs

namespace SortedRuns

theorem nil : SortedRuns cmp [] := ⟨.nil, by simp⟩

theorem head_lt (h : SortedRuns cmp (r :: rs)) {s : α × Nat} (hs : s ∈ rs) :
    cmp r.1 s.1 = .lt :=
  (List.pairwise_cons.mp h.ascending).1 s hs

theorem head_pos (h : SortedRuns cmp (r :: rs)) : 0 < r.2 := h.positive r (by simp)

theorem tail (h : SortedRuns cmp (r :: rs)) : SortedRuns cmp rs :=
  ⟨(List.pairwise_cons.mp h.ascending).2, fun s hs => h.positive s (List.mem_cons_of_mem _ hs)⟩

theorem cons (hr : 0 < r.2) (hlt : ∀ s ∈ rs, cmp r.1 s.1 = .lt) (h : SortedRuns cmp rs) :
    SortedRuns cmp (r :: rs) := by
  refine ⟨List.pairwise_cons.mpr ⟨hlt, h.ascending⟩, fun s hs => ?_⟩
  rcases List.mem_cons.mp hs with rfl | hs
  · exact hr
  · exact h.positive s hs

theorem concat (h : SortedRuns cmp rs) (hn : 0 < n) (hlt : ∀ s ∈ rs, cmp s.1 e = .lt) :
    SortedRuns cmp (rs ++ [(e, n)]) := by
  constructor
  · refine List.pairwise_append.mpr ⟨h.ascending, List.pairwise_singleton _ _, fun s hs r hr => ?_⟩
    obtain rfl := List.mem_singleton.mp hr
    exact hlt s hs
  · intro r hr
    rcases List.mem_append.mp hr with hr | hr
    · exact h.positive r hr
    · obtain rfl := List.mem_singleton.mp hr
      exact hn

theorem sublist {ss : List (α × Nat)} (h : SortedRuns cmp rs) (hs : ss.Sublist rs) :
    SortedRuns cmp ss :=
  ⟨h.ascending.sublist hs, fun r hr => h.positive r (hs.subset hr)⟩

theorem total_eq_zero_iff (h : SortedRuns cmp rs) : total rs = 0 ↔ rs = [] := by
  rw [total, sumCounts_eq_zero_iff (List.forall_mem_map.mpr h.positive), List.map_eq_nil_iff]

end SortedRuns

/-! ### The run of a class -/

@[simp] theorem findRun_nil : findRun cmp e [] = none := rfl

theorem findRun_cons :
    findRun cmp e (r :: rs) = if cmp r.1 e = .eq then some r else findRun cmp e rs := by
  unfold findRun
  rw [List.find?_cons]
  by_cases h : cmp r.1 e = .eq
  · simp [h]
  · rw [if_neg h, beq_eq_false_iff_ne.mpr h]

theorem findRun_cons_of_lt (h : cmp r.1 e = .lt) : findRun cmp e (r :: rs) = findRun cmp e rs := by
  rw [findRun_cons, h, if_neg Ordering.noConfusion]

theorem findRun_cons_of_eq (h : cmp r.1 e = .eq) : findRun cmp e (r :: rs) = some r := by
  rw [findRun_cons, if_pos h]

theorem findRun_mem (h : findRun cmp e rs = some r) : r ∈ rs := List.mem_of_find?_eq_some h

theorem findRun_compare (h : findRun cmp e rs = some r) : cmp r.1 e = .eq := by
  have hr := List.find?_some h
  simpa using hr

theorem findRun_eq_none : findRun cmp e rs = none ↔ ∀ r ∈ rs, cmp r.1 e ≠ .eq := by
  simp [findRun]

/-- Before greater elements there is no place for the class. -/
theorem findRun_of_gt (h : ∀ r ∈ rs, cmp r.1 e = .gt) : findRun cmp e rs = none :=
  findRun_eq_none.mpr fun r hr => by rw [h r hr]; exact Ordering.noConfusion

variable [Std.TransCmp cmp]

/-- A class has one run, whatever element of it is looked for. -/
theorem findRun_congr (h : cmp e x = .eq) : findRun cmp e rs = findRun cmp x rs := by
  unfold findRun
  congr 1
  funext r
  rw [Std.TransCmp.congr_right h]

/-- Everything after a run that is not less than an element is greater than it. -/
theorem SortedRuns.tail_gt (h : SortedRuns cmp (r :: rs)) (hr : cmp r.1 e ≠ .lt) :
    ∀ s ∈ rs, cmp s.1 e = .gt := by
  intro s hs
  have hle : (cmp e r.1).isLE := by
    rw [← Std.OrientedCmp.isGE_iff_isLE]
    cases hre : cmp r.1 e <;> simp_all
  exact Std.OrientedCmp.gt_of_lt (Std.TransCmp.lt_of_isLE_of_lt hle (h.head_lt hs))

theorem SortedRuns.findRun_tail (h : SortedRuns cmp (r :: rs)) (hr : cmp r.1 e ≠ .lt) :
    findRun cmp e rs = none :=
  findRun_of_gt (h.tail_gt hr)

theorem SortedRuns.findRun_cons_of_gt (h : SortedRuns cmp (r :: rs)) (hr : cmp r.1 e = .gt) :
    findRun cmp e (r :: rs) = none := by
  refine findRun_of_gt fun s hs => ?_
  rcases List.mem_cons.mp hs with rfl | hs
  · exact hr
  · exact h.tail_gt (by rw [hr]; decide) s hs

/-- Of sorted runs, the run of a class is the one that holds an element of it. -/
theorem SortedRuns.findRun_eq_some_iff (h : SortedRuns cmp rs) :
    findRun cmp e rs = some r ↔ r ∈ rs ∧ cmp r.1 e = .eq := by
  refine ⟨fun hr => ⟨findRun_mem hr, findRun_compare hr⟩, ?_⟩
  rintro ⟨hr, he⟩
  induction rs with
  | nil => simp at hr
  | cons s rs ih =>
    rcases List.mem_cons.mp hr with rfl | hr
    · exact findRun_cons_of_eq he
    · have hs : cmp s.1 e = .lt := Std.TransCmp.lt_of_lt_of_eq (h.head_lt hr) he
      rw [findRun_cons_of_lt hs]
      exact ih h.tail hr

/-- A run of sorted runs is the run of the class of its element. -/
theorem SortedRuns.findRun_self (h : SortedRuns cmp rs) (hr : r ∈ rs) :
    findRun cmp r.1 rs = some r :=
  h.findRun_eq_some_iff.mpr ⟨hr, Std.ReflCmp.compare_self⟩

theorem SortedRuns.nodup (h : SortedRuns cmp rs) : rs.Nodup := by
  refine h.ascending.imp fun {r s} hrs => ?_
  rintro rfl
  have hself : cmp r.1 r.1 = .eq := Std.ReflCmp.compare_self
  rw [hself] at hrs
  exact Ordering.noConfusion hrs

/-- **Sorted runs are determined by the runs of the classes.** -/
theorem SortedRuns.ext {ss : List (α × Nat)} (hr : SortedRuns cmp rs) (hs : SortedRuns cmp ss)
    (h : ∀ e, findRun cmp e rs = findRun cmp e ss) : rs = ss := by
  have hmem : ∀ r, r ∈ rs ↔ r ∈ ss := by
    intro r
    constructor
    · intro hm
      have hf := hr.findRun_self hm
      rw [h] at hf
      exact findRun_mem hf
    · intro hm
      have hf := hs.findRun_self hm
      rw [← h] at hf
      exact findRun_mem hf
  have hperm : rs.Perm ss := (List.perm_ext_iff_of_nodup hr.nodup hs.nodup).mpr hmem
  refine hperm.eq_of_pairwise (fun a b _ _ hab hba => ?_) hr.ascending hs.ascending
  rw [Std.OrientedCmp.gt_of_lt hab] at hba
  exact Ordering.noConfusion hba

end SortedMultiset
