import SortedMultiset.Proofs.Runs.Edit

/-!
# Runs dealt out in two parts

`Deals rs ls us` says that the runs `rs` are dealt out in the parts `ls` and `us`, in order: every run
goes to the one part or to the other, or it is cut and goes to both.  Of sorted runs, the run of a
class is then what the parts have of the class put together (`Deals.findRun_eq`).  The parts may change
places (`Deals.swap`), since a run that is cut has one representative.
-/

namespace SortedMultiset

variable {α : Type} {cmp : α → α → Ordering} {e : α} {rs ls us pre post : List (α × Nat)}

/-- What two parts have of a class, put together.  The first gives the representative. -/
def joinRun : Option (α × Nat) → Option (α × Nat) → Option (α × Nat)
  | some r, some s => some (r.1, r.2 + s.2)
  | some r, none => some r
  | none, s => s

@[simp] theorem joinRun_none_left (s : Option (α × Nat)) : joinRun none s = s := rfl

@[simp] theorem joinRun_none_right (r : Option (α × Nat)) : joinRun r none = r := by
  cases r <;> rfl

theorem joinRun_eq_none {r s : Option (α × Nat)} : joinRun r s = none ↔ r = none ∧ s = none := by
  cases r <;> cases s <;> simp [joinRun]

/-- Runs dealt out in two parts. -/
inductive Deals : List (α × Nat) → List (α × Nat) → List (α × Nat) → Prop
  | nil : Deals [] [] []
  | left {rs ls us : List (α × Nat)} (r : α × Nat) : Deals rs ls us → Deals (r :: rs) (r :: ls) us
  | right {rs ls us : List (α × Nat)} (r : α × Nat) : Deals rs ls us → Deals (r :: rs) ls (r :: us)
  /-- The run is cut after `m` of its occurrences. -/
  | cut {rs ls us : List (α × Nat)} (a : α) (m n : Nat) :
    Deals rs ls us → Deals ((a, m + n) :: rs) ((a, m) :: ls) ((a, n) :: us)

namespace Deals

theorem swap (h : Deals rs ls us) : Deals rs us ls := by
  induction h with
  | nil => exact .nil
  | left r _ ih => exact .right r ih
  | right r _ ih => exact .left r ih
  | cut a m n _ ih =>
    rw [Nat.add_comm]
    exact .cut a n m ih

theorem all_right (rs : List (α × Nat)) : Deals rs [] rs := by
  induction rs with
  | nil => exact .nil
  | cons r rs ih => exact .right r ih

theorem all_left (rs : List (α × Nat)) : Deals rs rs [] := (all_right rs).swap

/-- Runs that go to the first part come before the others. -/
theorem append_left (pre : List (α × Nat)) (h : Deals rs ls us) :
    Deals (pre ++ rs) (pre ++ ls) us := by
  induction pre with
  | nil => exact h
  | cons r pre ih => exact .left r ih

theorem append (pre post : List (α × Nat)) : Deals (pre ++ post) pre post := by
  have h := (all_right post).append_left pre
  rwa [List.append_nil] at h

/-- After the run of a class, neither part has any of it. -/
theorem none_of_tail [Std.TransCmp cmp] {r : α × Nat} (h : SortedRuns cmp (r :: rs))
    (hr : cmp r.1 e = .eq) {x y : Option (α × Nat)} (hxy : findRun cmp e rs = joinRun x y) :
    x = none ∧ y = none := by
  rw [h.findRun_tail (by rw [hr]; decide), eq_comm] at hxy
  exact joinRun_eq_none.mp hxy

/-- **The run of a class** is what the parts have of it, put together. -/
theorem findRun_eq [Std.TransCmp cmp] (hd : Deals rs ls us) (h : SortedRuns cmp rs) (e : α) :
    findRun cmp e rs = joinRun (findRun cmp e ls) (findRun cmp e us) := by
  induction hd with
  | nil => rfl
  | @left rs ls us r hd ih =>
    rw [findRun_cons, findRun_cons]
    split_ifs with hr
    · rw [(none_of_tail h hr (ih h.tail)).2, joinRun_none_right]
    · exact ih h.tail
  | @right rs ls us r hd ih =>
    rw [findRun_cons, findRun_cons]
    split_ifs with hr
    · rw [(none_of_tail h hr (ih h.tail)).1, joinRun_none_left]
    · exact ih h.tail
  | cut a m n hd ih =>
    rw [findRun_cons, findRun_cons, findRun_cons]
    split_ifs with hr
    · rfl
    · exact ih h.tail

/-- **The occurrences of a class** are those that the parts have of it. -/
theorem countRun_add [Std.TransCmp cmp] (hd : Deals rs ls us) (h : SortedRuns cmp rs) (e : α) :
    countRun cmp e ls + countRun cmp e us = countRun cmp e rs := by
  unfold countRun
  rw [hd.findRun_eq h e]
  cases findRun cmp e ls <;> cases findRun cmp e us <;> simp [joinRun]

end Deals

end SortedMultiset
