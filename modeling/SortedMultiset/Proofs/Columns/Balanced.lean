import SortedMultiset.Columns.Edit
import SortedMultiset.Proofs.Columns.Sound

/-!
# Balanced columns

`Columns.Balanced` is what sound columns keep when the order is forgotten: two columns of one length, and a
total that is the sum of the counts.  Without empty runs they are `Columns.Tallied`, and that is all that
the walks along them need.  A search in balanced columns ends inside, whatever it is told
(`searchWindow_within`), so a slot that is found can be changed or erased, and the sum of the counts changes
by as much as the count there (`sumCounts_modify`, `sumCounts_insertIdx`, `sumCounts_eraseIdx`).
-/

namespace SortedMultiset

variable {α : Type} {n i : Nat}

/-! ### Slots -/

/-- A slot of something of a length; an absent element may belong behind the last. -/
def Slot.Within (n : Nat) : Slot → Prop
  | .found i => i < n
  | .absent i => i ≤ n

/-- **A search stays inside**, whatever it is told. -/
theorem searchWindow_within {compareTo : α → Ordering} {xs : Array α} {lo hi : Nat} (hle : lo ≤ hi)
    (bound : hi ≤ xs.size) : (searchWindow compareTo xs lo hi bound).Within xs.size := by
  fun_induction searchWindow compareTo xs lo hi bound with
  | case1 lo hi bound hlt mid hmid heq => exact hmid
  | case2 lo hi bound hlt mid hmid heq ih => exact ih (by omega)
  | case3 lo hi bound hlt mid hmid heq ih => exact ih (by omega)
  | case4 lo hi bound hlt => exact Nat.le_trans hle bound

/-! ### Sums of changed columns -/

theorem getD_toList (counts : Array Nat) (i : Nat) : counts.toList.getD i 0 = counts.getD i 0 := by
  rw [List.getD_eq_getElem?_getD, Array.getElem?_toList, Array.getD_eq_getD_getElem?]

theorem getD_le_sumCounts (i : Nat) (counts : List Nat) : counts.getD i 0 ≤ sumCounts counts := by
  induction counts generalizing i with
  | nil => exact Nat.le_refl _
  | cons count counts ih =>
    rw [sumCounts_cons]
    cases i with
    | zero => exact Nat.le_add_right _ _
    | succ i => exact Nat.le_trans (ih i) (Nat.le_add_left _ _)

theorem sumCounts_modify (f : Nat → Nat) (counts : List Nat) (hi : i < counts.length) :
    sumCounts (counts.modify i f) + counts.getD i 0 = sumCounts counts + f (counts.getD i 0) := by
  induction counts generalizing i with
  | nil => exact absurd hi (Nat.not_lt_zero i)
  | cons count counts ih =>
    cases i with
    | zero =>
      rw [List.modify_zero_cons, sumCounts_cons, sumCounts_cons, List.getD_cons_zero]
      omega
    | succ i =>
      have hrest := ih (Nat.lt_of_succ_lt_succ hi)
      rw [List.modify_succ_cons, sumCounts_cons, sumCounts_cons, List.getD_cons_succ]
      omega

theorem sumCounts_insertIdx (counts : List Nat) (hi : i ≤ counts.length) (n : Nat) :
    sumCounts (counts.insertIdx i n) = sumCounts counts + n := by
  rw [insertIdx_eq_take_append_drop n i counts hi, sumCounts_append, sumCounts_cons,
    ← sumCounts_take_add_drop i counts]
  omega

theorem sumCounts_eraseIdx (counts : List Nat) (hi : i < counts.length) :
    sumCounts (counts.eraseIdx i) + counts.getD i 0 = sumCounts counts := by
  have hsplit := sumCounts_take_add_drop i counts
  rw [List.drop_eq_getElem_cons hi, sumCounts_cons] at hsplit
  rw [List.eraseIdx_eq_take_drop_succ, sumCounts_append, ← List.getElem_eq_getD (h := hi)]
  omega

/-! ### Balance -/

namespace Columns

variable {t : Columns α} {e : α}

/-- Columns of one length whose total is that of the counts. -/
structure Balanced (t : Columns α) : Prop where
  length_eq : t.counts.size = t.elements.size
  size_eq : t.size = sumCounts t.counts.toList

theorem WellFormed.balanced (h : t.WellFormed) : t.Balanced := ⟨h.length_eq, h.size_eq⟩

theorem SoundIn.balanced {c : Comparator α} (h : t.SoundIn c) : t.Balanced := h.wellFormed.balanced

namespace Balanced

variable (h : t.Balanced)
include h

theorem total_entries : total t.entries = t.size := by
  rw [h.size_eq, total, map_snd_entries h.length_eq]

theorem getD_le (i : Nat) : t.counts.getD i 0 ≤ t.size := by
  rw [h.size_eq, ← getD_toList]
  exact getD_le_sumCounts i _

theorem found_lt (hs : t.search e = .found i) : i < t.elements.size ∧ i < t.counts.size := by
  have hwithin : (t.search e).Within t.elements.size :=
    searchWindow_within (Nat.zero_le _) (Nat.le_refl _)
  rw [hs] at hwithin
  exact ⟨hwithin, h.length_eq ▸ hwithin⟩

theorem absent_le (hs : t.search e = .absent i) : i ≤ t.elements.size ∧ i ≤ t.counts.size := by
  have hwithin : (t.search e).Within t.elements.size :=
    searchWindow_within (Nat.zero_le _) (Nat.le_refl _)
  rw [hs] at hwithin
  exact ⟨hwithin, h.length_eq ▸ hwithin⟩

end Balanced

/-- Balanced columns without empty runs. -/
structure Tallied (t : Columns α) : Prop extends Balanced t where
  positive : ∀ n ∈ t.counts.toList, 0 < n

theorem WellFormed.tallied (h : t.WellFormed) : t.Tallied :=
  ⟨h.balanced, fun n hn => h.positive n (by simpa using hn)⟩

theorem SoundIn.tallied {c : Comparator α} (h : t.SoundIn c) : t.Tallied := h.wellFormed.tallied

theorem Tallied.pos_of_entries (h : t.Tallied) {pre post : List (α × Nat)} {r : α × Nat}
    (he : t.entries = pre ++ r :: post) : 0 < r.2 := by
  refine h.positive r.2 ?_
  rw [← map_snd_entries h.length_eq, he]
  simp

/-- **Sound columns** are balanced and have sorted runs. -/
theorem soundIn_iff_balanced {c : Comparator α} :
    t.SoundIn c ↔ t.Balanced ∧ SortedRuns c.compare t.entries ∧ t.comparator = c := by
  rw [soundIn_iff]
  constructor
  · rintro ⟨hlen, hsorted, hsize, hc⟩
    refine ⟨⟨hlen, ?_⟩, hsorted, hc⟩
    rw [hsize, total, map_snd_entries hlen]
  · rintro ⟨hbalanced, hsorted, hc⟩
    exact ⟨hbalanced.length_eq, hsorted, hbalanced.total_entries.symm, hc⟩

end Columns

end SortedMultiset
