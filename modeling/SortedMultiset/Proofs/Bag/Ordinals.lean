import SortedMultiset.Proofs.Bag.Access
import SortedMultiset.Proofs.Bulk

/-!
# Ordinals and the expanded sequence

What a bag does with ordinals can be said on its expanded sequence, with no slots or offsets in it:

* `Bag.toList_take`, `Bag.toList_drop`: a bag is cut at an ordinal as the sequence is;
* `Bag.indexOf_eq`: the ordinal of an element that is there is the number of lesser ones.

Sorted runs can be read off the sequence (`SortedRuns.ext_expand`), so these equations determine the bags
as well.
-/

namespace SortedMultiset

variable {α : Type} {cmp : α → α → Ordering} {e : α} {rs ss pre post : List (α × Nat)}

/-- **Sorted runs are determined by the sequence** for which they stand. -/
theorem SortedRuns.ext_expand [Std.TransCmp cmp] (hr : SortedRuns cmp rs) (hs : SortedRuns cmp ss)
    (h : expand rs = expand ss) : rs = ss := by
  rw [← gatherRuns_expand hr, h, gatherRuns_expand hs]

/-- Between runs of lesser elements and others, the lesser are counted. -/
theorem countP_lt_expand_append (hpre : ∀ s ∈ pre, cmp s.1 e = .lt)
    (hpost : ∀ s ∈ post, cmp s.1 e ≠ .lt) :
    (expand (pre ++ post)).countP (fun x => cmp x e == .lt) = total pre := by
  have hlesser : ∀ x ∈ expand pre, cmp x e = .lt := forall_mem_expand hpre
  have hothers : ∀ x ∈ expand post, cmp x e ≠ .lt := forall_mem_expand hpost
  have hbefore : (expand pre).countP (fun x => cmp x e == .lt) = (expand pre).length :=
    List.countP_eq_length.mpr fun x hx => beq_iff_eq.mpr (hlesser x hx)
  have hafter : (expand post).countP (fun x => cmp x e == .lt) = 0 :=
    List.countP_eq_zero.mpr fun x hx heq => hothers x hx (beq_iff_eq.mp heq)
  rw [expand_append, List.countP_append, hbefore, hafter, length_expand, Nat.add_zero]

namespace Bag

variable {b : Bag α} {c : Comparator α}

/-- **The ordinal of an element** that is there is the number of lesser ones. -/
theorem indexOf_eq [Std.TransCmp c.compare] (h : b.SoundIn c) (e : α) :
    b.indexOf e = if b.contains e then some (b.toList.countP fun x => c.compare x e == .lt) else none := by
  unfold indexOf Columns.contains
  cases hs : b.search e with
  | found i =>
    obtain ⟨pre, r, post, he, rfl, hlt, heq, hgt⟩ := h.search_found hs
    have hrest : ∀ s ∈ r :: post, c.compare s.1 e ≠ .lt := by
      intro s hmem
      rcases List.mem_cons.mp hmem with rfl | hmem
      · rw [heq]
        exact Ordering.noConfusion
      · rw [hgt s hmem]
        exact Ordering.noConfusion
    rw [toList, he, countP_lt_expand_append hlt hrest, ← prefixSum_length h he]
    rfl
  | absent i => rfl

/-- **The first elements** of a bag are those of the sequence. -/
theorem toList_take (h : b.SoundIn c) (n : Nat) : (b.take n).value.toList = b.toList.take n := by
  rcases Nat.lt_or_ge n b.size with hn | hn
  · obtain ⟨pre, r, offset, post, hcut⟩ := exists_cutsAt h hn
    have hparts : (b.take n).value.toList = expand pre ++ List.replicate offset r.1 := by
      rw [toList, entries_take h hn hcut, expand_append]
      split_ifs with hoffset
      · rw [hoffset]
        rfl
      · rw [expand_cons, expand_nil, List.append_nil]
    -- the sequence is what is taken, followed by what lies behind the cut
    have hsplit : b.toList = (expand pre ++ List.replicate offset r.1) ++ b.toList.drop n := by
      rw [hcut.drop_toList, toList, hcut.entries_eq, expand_append, expand_cons,
        replicate_split (Nat.le_of_lt hcut.offset_lt)]
      simp only [List.append_assoc]
    have hlength : (expand pre ++ List.replicate offset r.1).length = n := by
      rw [List.length_append, length_expand, List.length_replicate, hcut.total_add]
    rw [hparts, hsplit]
    exact (List.take_left' hlength).symm
  · rw [(take_drop_beyond h.wellFormed hn).1]
    exact (List.take_of_length_le (by rw [length_toList h.wellFormed]; exact hn)).symm

/-- **The elements behind the first ones** are those of the sequence. -/
theorem toList_drop (h : b.SoundIn c) (n : Nat) : (b.drop n).value.toList = b.toList.drop n := by
  rcases Nat.lt_or_ge n b.size with hn | hn
  · obtain ⟨pre, r, offset, post, hcut⟩ := exists_cutsAt h hn
    rw [toList, entries_drop h hn hcut, hcut.drop_toList]
    rfl
  · rw [(take_drop_beyond h.wellFormed hn).2]
    exact (List.drop_eq_nil_of_le (by rw [length_toList h.wellFormed]; exact hn)).symm

end Bag

end SortedMultiset
