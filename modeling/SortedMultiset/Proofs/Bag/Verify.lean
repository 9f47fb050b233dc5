import Mathlib.Data.List.Chain
import SortedMultiset.Bag.Verify
import SortedMultiset.Proofs.Columns.Sound

/-!
# What the check of a bag finds

`Bag.verify` looks at neighbours only.  Under a total preorder that is enough, and a bag passes
exactly when it is sound (`Bag.verify_eq_ok_iff`).
-/

namespace SortedMultiset

variable {α : Type} {cmp : α → α → Ordering} {xs : List α}

/-- There is no descent exactly when all neighbours ascend. -/
theorem firstDescent_eq_none_iff :
    firstDescent cmp xs = none ↔ xs.IsChain fun a b => cmp a b = .lt := by
  fun_induction firstDescent cmp xs with
  | case1 a b rest h ih => rw [ih, List.isChain_cons_cons, and_iff_right h]
  | case2 a b rest h =>
    rw [List.isChain_cons_cons]
    exact iff_of_false (Option.some_ne_none _) fun hchain => h hchain.1
  | case3 xs h =>
    refine iff_of_true rfl ?_
    match xs, h with
    | [], _ => exact .nil
    | [a], _ => exact .singleton a
    | a :: b :: rest, h => exact absurd rfl (h a b rest)

theorem isChain_lt_iff_pairwise [Std.TransCmp cmp] :
    (xs.IsChain fun a b => cmp a b = .lt) ↔ xs.Pairwise fun a b => cmp a b = .lt := by
  let _ : Trans (fun a b => cmp a b = .lt) (fun a b => cmp a b = .lt) fun a b => cmp a b = .lt :=
    ⟨Std.TransCmp.lt_trans⟩
  exact List.isChain_iff_pairwise

namespace Bag

variable {b : Bag α} [Std.TransCmp b.comparator.compare]

/-- **A bag passes the check exactly when it is sound.** -/
theorem verify_eq_ok_iff : b.verify = .ok () ↔ b.WellFormed := by
  unfold verify
  split_ifs with hlen hzero hsum
  · exact iff_of_false id fun h => hlen h.length_eq.symm
  · refine iff_of_false id fun h => ?_
    rw [Array.any_eq_true'] at hzero
    obtain ⟨n, hn, h0⟩ := hzero
    have hpos := h.positive n hn
    have hn0 : n = 0 := by simpa using h0
    omega
  · exact iff_of_false id fun h => hsum h.size_eq.symm
  · have hpositive : ∀ n ∈ b.counts, 0 < n := by
      intro n hn
      refine Nat.pos_of_ne_zero fun h0 => hzero ?_
      rw [Array.any_eq_true']
      exact ⟨n, hn, by rw [h0]; rfl⟩
    constructor
    · intro h
      cases hd : firstDescent b.comparator.compare b.elements.toList with
      | some found =>
        rw [hd] at h
        cases h
      | none =>
        rw [firstDescent_eq_none_iff, isChain_lt_iff_pairwise] at hd
        exact ⟨(not_not.mp hlen).symm, hd, hpositive, (not_not.mp hsum).symm⟩
    · intro h
      rw [firstDescent_eq_none_iff.mpr (isChain_lt_iff_pairwise.mpr h.ascending)]

end Bag

end SortedMultiset
