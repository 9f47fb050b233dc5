import SortedMultiset.Proofs.Runs.Sorted

/-!
# Edits of sorted runs

Adding and removing keep runs sorted (`sortedRuns_addRun`, `sortedRuns_removeRun`) and change the run
of one class only (`findRun_addRun`, `findRun_removeRun`).

Two edits of one element are one (`addRun_add`, `removeRun_add`): the second finds the run where the
first left it.
-/

namespace SortedMultiset

variable {α : Type} {cmp : α → α → Ordering} {e x : α} {m n : Nat} {r s : α × Nat}
  {rs : List (α × Nat)}

/-- How often a class occurs. -/
def countRun (cmp : α → α → Ordering) (e : α) (rs : List (α × Nat)) : Nat :=
  ((findRun cmp e rs).map Prod.snd).getD 0

/-! ### One step of an edit -/

theorem insertRun_of_lt (h : cmp r.1 e = .lt) :
    insertRun cmp e n (r :: rs) = r :: insertRun cmp e n rs := by
  rw [insertRun, h]

theorem insertRun_of_eq (h : cmp r.1 e = .eq) :
    insertRun cmp e n (r :: rs) = (r.1, r.2 + n) :: rs := by
  rw [insertRun, h]

theorem insertRun_of_gt (h : cmp r.1 e = .gt) :
    insertRun cmp e n (r :: rs) = (e, n) :: r :: rs := by
  rw [insertRun, h]

theorem removeRun_of_lt (h : cmp r.1 e = .lt) :
    removeRun cmp e n (r :: rs) = r :: removeRun cmp e n rs := by
  rw [removeRun, h]

theorem removeRun_of_eq (h : cmp r.1 e = .eq) :
    removeRun cmp e n (r :: rs) = if n < r.2 then (r.1, r.2 - n) :: rs else rs := by
  rw [removeRun, h]

theorem removeRun_of_gt (h : cmp r.1 e = .gt) : removeRun cmp e n (r :: rs) = r :: rs := by
  rw [removeRun, h]

@[simp] theorem addRun_zero : addRun cmp e 0 rs = rs := rfl

theorem addRun_of_ne_zero (hn : n ≠ 0) : addRun cmp e n rs = insertRun cmp e n rs := if_neg hn

@[simp] theorem removeRun_nil : removeRun cmp e n [] = [] := rfl

/-! ### What stays sorted -/

/-- An addition brings no new element but its own. -/
theorem mem_insertRun (hs : s ∈ insertRun cmp e n rs) : s.1 = e ∨ ∃ t ∈ rs, t.1 = s.1 := by
  induction rs with
  | nil =>
    rw [insertRun, List.mem_singleton] at hs
    exact Or.inl (by rw [hs])
  | cons r rs ih =>
    cases h : cmp r.1 e with
    | lt =>
      rw [insertRun_of_lt h] at hs
      rcases List.mem_cons.mp hs with rfl | hs
      · exact Or.inr ⟨s, by simp, rfl⟩
      · rcases ih hs with he | ⟨t, ht, hts⟩
        · exact Or.inl he
        · exact Or.inr ⟨t, List.mem_cons_of_mem _ ht, hts⟩
    | eq =>
      rw [insertRun_of_eq h] at hs
      rcases List.mem_cons.mp hs with rfl | hs
      · exact Or.inr ⟨r, by simp, rfl⟩
      · exact Or.inr ⟨s, List.mem_cons_of_mem _ hs, rfl⟩
    | gt =>
      rw [insertRun_of_gt h] at hs
      rcases List.mem_cons.mp hs with rfl | hs
      · exact Or.inl rfl
      · exact Or.inr ⟨s, hs, rfl⟩

/-- A removal brings no new element. -/
theorem mem_removeRun (hs : s ∈ removeRun cmp e n rs) : ∃ t ∈ rs, t.1 = s.1 := by
  induction rs with
  | nil => simp at hs
  | cons r rs ih =>
    cases h : cmp r.1 e with
    | lt =>
      rw [removeRun_of_lt h] at hs
      rcases List.mem_cons.mp hs with rfl | hs
      · exact ⟨s, by simp, rfl⟩
      · obtain ⟨t, ht, hts⟩ := ih hs
        exact ⟨t, List.mem_cons_of_mem _ ht, hts⟩
    | eq =>
      rw [removeRun_of_eq h] at hs
      split_ifs at hs with hn
      · rcases List.mem_cons.mp hs with rfl | hs
        · exact ⟨r, by simp, rfl⟩
        · exact ⟨s, List.mem_cons_of_mem _ hs, rfl⟩
      · exact ⟨s, List.mem_cons_of_mem _ hs, rfl⟩
    | gt =>
      rw [removeRun_of_gt h] at hs
      exact ⟨s, hs, rfl⟩

theorem sortedRuns_removeRun (h : SortedRuns cmp rs) :
    SortedRuns cmp (removeRun cmp e n rs) := by
  induction rs with
  | nil => exact .nil
  | cons r rs ih =>
    cases hre : cmp r.1 e with
    | lt =>
      rw [removeRun_of_lt hre]
      refine .cons h.head_pos (fun s hs => ?_) (ih h.tail)
      obtain ⟨t, ht, hts⟩ := mem_removeRun hs
      rw [← hts]
      exact h.head_lt ht
    | eq =>
      rw [removeRun_of_eq hre]
      split_ifs with hn
      · exact .cons (Nat.sub_pos_of_lt hn) (fun s hs => h.head_lt hs) h.tail
      · exact h.tail
    | gt =>
      rw [removeRun_of_gt hre]
      exact h

theorem removeRun_zero (h : SortedRuns cmp rs) : removeRun cmp e 0 rs = rs := by
  induction rs with
  | nil => rfl
  | cons r rs ih =>
    cases hre : cmp r.1 e with
    | lt => rw [removeRun_of_lt hre, ih h.tail]
    | eq => rw [removeRun_of_eq hre, if_pos h.head_pos, Nat.sub_zero]
    | gt => rw [removeRun_of_gt hre]

variable [Std.TransCmp cmp]

theorem sortedRuns_insertRun (h : SortedRuns cmp rs) (hn : 0 < n) :
    SortedRuns cmp (insertRun cmp e n rs) := by
  induction rs with
  | nil => exact .cons hn (by simp) .nil
  | cons r rs ih =>
    cases hre : cmp r.1 e with
    | lt =>
      rw [insertRun_of_lt hre]
      refine .cons h.head_pos (fun s hs => ?_) (ih h.tail)
      rcases mem_insertRun hs with rfl | ⟨t, ht, hts⟩
      · exact hre
      · rw [← hts]
        exact h.head_lt ht
    | eq =>
      rw [insertRun_of_eq hre]
      exact .cons (Nat.add_pos_right _ hn) (fun s hs => h.head_lt hs) h.tail
    | gt =>
      rw [insertRun_of_gt hre]
      have her : cmp e r.1 = .lt := Std.OrientedCmp.lt_of_gt hre
      refine .cons hn (fun s hs => ?_) h
      rcases List.mem_cons.mp hs with rfl | hs
      · exact her
      · exact Std.TransCmp.lt_trans her (h.head_lt hs)

theorem sortedRuns_addRun (h : SortedRuns cmp rs) : SortedRuns cmp (addRun cmp e n rs) := by
  unfold addRun
  split_ifs with hn
  · exact h
  · exact sortedRuns_insertRun h (Nat.pos_of_ne_zero hn)

/-! ### What changes -/

/-- The run of a class after some of it were added. -/
def grownRun (e : α) (n : Nat) (found : Option (α × Nat)) : α × Nat :=
  match found with
  | some r => (r.1, r.2 + n)
  | none => (e, n)

/-- The run of a class after some of it were removed. -/
def shrunkRun (n : Nat) (found : Option (α × Nat)) : Option (α × Nat) :=
  found.bind fun r => if n < r.2 then some (r.1, r.2 - n) else none

theorem findRun_insertRun (h : SortedRuns cmp rs) :
    findRun cmp x (insertRun cmp e n rs) =
      if cmp e x = .eq then some (grownRun e n (findRun cmp e rs)) else findRun cmp x rs := by
  induction rs with
  | nil => simp [insertRun, findRun_cons, grownRun]
  | cons r rs ih =>
    cases hre : cmp r.1 e with
    | lt =>
      rw [insertRun_of_lt hre, findRun_cons_of_lt hre, findRun_cons, ih h.tail, findRun_cons]
      split_ifs with hrx hex hex
      · rw [Std.TransCmp.congr_right hex, hrx] at hre
        exact Ordering.noConfusion hre
      · rfl
      · rfl
      · rfl
    | eq =>
      rw [insertRun_of_eq hre, findRun_cons_of_eq hre, findRun_cons, findRun_cons,
        Std.TransCmp.congr_left hre]
      split_ifs <;> rfl
    | gt =>
      rw [insertRun_of_gt hre, h.findRun_cons_of_gt hre, findRun_cons]
      rfl

/-- **An addition changes the run of one class.** -/
theorem findRun_addRun (h : SortedRuns cmp rs) :
    findRun cmp x (addRun cmp e n rs) =
      if n ≠ 0 ∧ cmp e x = .eq then some (grownRun e n (findRun cmp e rs))
      else findRun cmp x rs := by
  unfold addRun
  split_ifs with hn hx hx
  · exact absurd hn hx.1
  · rfl
  · rw [findRun_insertRun h, if_pos hx.2]
  · rw [findRun_insertRun h, if_neg (fun hex => hx ⟨hn, hex⟩)]

/-- **A removal changes the run of one class.** -/
theorem findRun_removeRun (h : SortedRuns cmp rs) :
    findRun cmp x (removeRun cmp e n rs) =
      if cmp e x = .eq then shrunkRun n (findRun cmp e rs) else findRun cmp x rs := by
  induction rs with
  | nil => simp [shrunkRun]
  | cons r rs ih =>
    cases hre : cmp r.1 e with
    | lt =>
      rw [removeRun_of_lt hre, findRun_cons_of_lt hre, findRun_cons, ih h.tail, findRun_cons]
      split_ifs with hrx hex hex
      · rw [Std.TransCmp.congr_right hex, hrx] at hre
        exact Ordering.noConfusion hre
      · rfl
      · rfl
      · rfl
    | eq =>
      have htail : findRun cmp e rs = none := h.findRun_tail (by rw [hre]; decide)
      rw [removeRun_of_eq hre, findRun_cons_of_eq hre, findRun_cons, Std.TransCmp.congr_left hre]
      by_cases hex : cmp e x = .eq
      · rw [findRun_congr hex] at htail
        by_cases hn : n < r.2
        · simp [shrunkRun, hn, hex, findRun_cons, Std.TransCmp.congr_left hre]
        · simp [shrunkRun, hn, hex, htail]
      · by_cases hn : n < r.2
        · simp [hn, hex, findRun_cons, Std.TransCmp.congr_left hre]
        · simp [hn, hex]
    | gt =>
      have hnone : findRun cmp e (r :: rs) = none := h.findRun_cons_of_gt hre
      rw [removeRun_of_gt hre, hnone]
      split_ifs with hex
      · rw [← findRun_congr hex, hnone]
        rfl
      · rfl

/-! ### Edits of one element -/

theorem insertRun_insertRun :
    insertRun cmp e n (insertRun cmp e m rs) = insertRun cmp e (m + n) rs := by
  have hself : cmp e e = .eq := Std.ReflCmp.compare_self
  induction rs with
  | nil => rw [insertRun, insertRun_of_eq hself, insertRun]
  | cons r rs ih =>
    cases hre : cmp r.1 e with
    | lt => rw [insertRun_of_lt hre, insertRun_of_lt hre, insertRun_of_lt hre, ih]
    | eq => rw [insertRun_of_eq hre, insertRun_of_eq (r := (r.1, r.2 + m)) hre, insertRun_of_eq hre,
        Nat.add_assoc]
    | gt => rw [insertRun_of_gt hre, insertRun_of_eq hself, insertRun_of_gt hre]

/-- **Additions of one element add up.** -/
theorem addRun_add : addRun cmp e (m + n) rs = addRun cmp e n (addRun cmp e m rs) := by
  by_cases hm : m = 0
  · rw [hm, Nat.zero_add, addRun_zero]
  by_cases hn : n = 0
  · rw [hn, Nat.add_zero, addRun_zero]
  · rw [addRun_of_ne_zero hn, addRun_of_ne_zero hm, insertRun_insertRun,
      addRun_of_ne_zero (by omega)]

omit [Std.TransCmp cmp] in
theorem removeRun_of_all_gt (h : ∀ s ∈ rs, cmp s.1 e = .gt) : removeRun cmp e n rs = rs := by
  cases rs with
  | nil => rfl
  | cons r rs => exact removeRun_of_gt (h r (by simp))

/-- **Removals of one element add up.** -/
theorem removeRun_add (h : SortedRuns cmp rs) :
    removeRun cmp e (m + n) rs =
      removeRun cmp e n (removeRun cmp e m rs) := by
  induction rs with
  | nil => rfl
  | cons r rs ih =>
    cases hre : cmp r.1 e with
    | lt => rw [removeRun_of_lt hre, removeRun_of_lt hre, removeRun_of_lt hre, ih h.tail]
    | eq =>
      have htail : removeRun cmp e n rs = rs :=
        removeRun_of_all_gt (h.tail_gt (by rw [hre]; decide))
      rw [removeRun_of_eq hre, removeRun_of_eq hre]
      by_cases hm : m < r.2
      · have hiff : n < r.2 - m ↔ m + n < r.2 := by omega
        rw [if_pos hm, removeRun_of_eq (r := (r.1, r.2 - m)) hre, Nat.sub_sub]
        simp only [hiff]
      · rw [if_neg hm, if_neg (by omega), htail]
    | gt => rw [removeRun_of_gt hre, removeRun_of_gt hre, removeRun_of_gt hre]

/-! ### How often a class occurs -/

omit [Std.TransCmp cmp] in
theorem countRun_cons_of_eq (h : cmp r.1 e = .eq) : countRun cmp e (r :: rs) = r.2 := by
  rw [countRun, findRun_cons_of_eq h]
  rfl

omit [Std.TransCmp cmp] in
theorem countRun_cons_of_ne (h : cmp r.1 e ≠ .eq) :
    countRun cmp e (r :: rs) = countRun cmp e rs := by
  rw [countRun, findRun_cons, if_neg h, countRun]

/-- A class before the first of sorted runs does not occur. -/
theorem SortedRuns.countRun_cons_of_gt (h : SortedRuns cmp (r :: rs)) (hr : cmp r.1 e = .gt) :
    countRun cmp e (r :: rs) = 0 := by
  rw [countRun, h.findRun_cons_of_gt hr]
  rfl

/-- The class of the first of sorted runs does not occur again. -/
theorem SortedRuns.countRun_tail (h : SortedRuns cmp (r :: rs)) (hr : cmp r.1 e = .eq) :
    countRun cmp e rs = 0 := by
  rw [countRun, h.findRun_tail (by rw [hr]; decide)]
  rfl

omit [Std.TransCmp cmp] in
/-- A run that is used up counts as none. -/
theorem count_shrunkRun (run : Option (α × Nat)) :
    ((shrunkRun n run).map Prod.snd).getD 0 = (run.map Prod.snd).getD 0 - n := by
  cases run with
  | none => simp [shrunkRun]
  | some r =>
    by_cases hn : n < r.2
    · simp [shrunkRun, hn]
    · have hzero : r.2 - n = 0 := by omega
      simp [shrunkRun, hn, hzero]

end SortedMultiset
