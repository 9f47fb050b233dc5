import SortedMultiset.Builder
import SortedMultiset.Proofs.Columns.Balanced

/-!
# What builders do to runs

Every edit of a builder keeps its columns balanced, even if the comparator has no laws
(`Builder.balanced_addMany`, `Builder.balanced_removeMany`).  Freezing sums the total anew, and of a balanced
builder it gives the very columns (`Builder.freeze_eq_of_balanced`).

On a sound builder, adding and removing are `addRun` and `removeRun` on its runs
(`Builder.entries_addMany`, `Builder.entries_removeMany`), and the builder stays sound and in its
order (`Builder.soundIn_addMany`, `Builder.soundIn_removeMany`).  Long additions and removals are folds of
these.  Runs that follow in order are appended, which again takes no law of the comparator
(`Builder.addRuns_behind`): all parts of bags are made in this way.
-/

namespace SortedMultiset

variable {α : Type}

theorem size_insertIdxIfInBounds {xs : Array α} {i : Nat} (h : i ≤ xs.size) (a : α) :
    (xs.insertIdxIfInBounds i a).size = xs.size + 1 := by
  simp [Array.insertIdxIfInBounds, h]

theorem size_eraseIdxIfInBounds {xs : Array α} {i : Nat} (h : i < xs.size) :
    (xs.eraseIdxIfInBounds i).size = xs.size - 1 := by
  simp [Array.eraseIdxIfInBounds, h]

namespace Builder

variable {b b' : Builder α} {c : Comparator α} {e : α} {m n i : Nat}

theorem soundIn_empty (c : Comparator α) : (empty c).SoundIn c := Columns.soundIn_empty c

theorem soundIn_ofBag {bag : Bag α} (h : bag.SoundIn c) : (ofBag bag).SoundIn c := h

/-- Sound builders in one order with the same runs are the same. -/
theorem ext_entries (h : b.SoundIn c) (h' : b'.SoundIn c) (he : b.entries = b'.entries) :
    b = b' := by
  have ht : b.toColumns = b'.toColumns := h.ext h' he
  cases b
  cases b'
  exact congrArg Builder.mk ht

/-! ### Balance -/

theorem size_addMany (b : Builder α) (e : α) (n : Nat) : (b.addMany e n).size = b.size + n := by
  unfold addMany
  split
  · next hn => rw [hn, Nat.add_zero]
  · split <;> rfl

theorem size_addRuns (b : Builder α) (runs : List (α × Nat)) :
    (b.addRuns runs).size = b.size + total runs := by
  induction runs generalizing b with
  | nil => rfl
  | cons r runs ih =>
    have hrest := ih (b.addMany r.1 r.2)
    rw [size_addMany, Nat.add_assoc, ← total_cons] at hrest
    exact hrest

theorem balanced_empty (c : Comparator α) : (empty c).Balanced := ⟨rfl, rfl⟩

theorem balanced_addMany (h : b.Balanced) (e : α) (n : Nat) : (b.addMany e n).Balanced := by
  unfold addMany
  by_cases hn : n = 0
  · rw [if_pos hn]
    exact h
  rw [if_neg hn]
  cases hs : b.search e with
  | found i =>
    have hi := (h.found_lt hs).2
    refine ⟨Array.size_modify.trans h.length_eq, ?_⟩
    have hsum := sumCounts_modify (· + n) b.counts.toList hi
    show b.size + n = sumCounts (b.counts.modify i (· + n)).toList
    rw [Array.toList_modify, h.size_eq]
    omega
  | absent i =>
    obtain ⟨hi, hi'⟩ := h.absent_le hs
    refine ⟨?_, ?_⟩
    · show (b.counts.insertIdxIfInBounds i n).size = (b.elements.insertIdxIfInBounds i e).size
      rw [size_insertIdxIfInBounds hi, size_insertIdxIfInBounds hi', h.length_eq]
    · show b.size + n = sumCounts (b.counts.insertIdxIfInBounds i n).toList
      rw [toList_insertIdxIfInBounds hi', sumCounts_insertIdx _ hi', h.size_eq]

theorem balanced_removeMany (h : b.Balanced) (e : α) (n : Nat) : (b.removeMany e n).2.Balanced := by
  unfold removeMany
  by_cases hn : n = 0
  · rw [if_pos hn]
    exact h
  rw [if_neg hn]
  cases hs : b.search e with
  | absent i => exact h
  | found i =>
    obtain ⟨hi, hi'⟩ := h.found_lt hs
    have hgetD := getD_toList b.counts i
    dsimp only
    by_cases hlt : n < b.counts.getD i 0
    · rw [if_pos hlt]
      refine ⟨Array.size_modify.trans h.length_eq, ?_⟩
      have hsum := sumCounts_modify (· - n) b.counts.toList hi'
      show b.size - n = sumCounts (b.counts.modify i (· - n)).toList
      rw [Array.toList_modify, h.size_eq]
      omega
    · rw [if_neg hlt]
      refine ⟨?_, ?_⟩
      · show (b.counts.eraseIdxIfInBounds i).size = (b.elements.eraseIdxIfInBounds i).size
        rw [size_eraseIdxIfInBounds hi, size_eraseIdxIfInBounds hi', h.length_eq]
      · have hsum := sumCounts_eraseIdx b.counts.toList hi'
        show b.size - b.counts.getD i 0 = sumCounts (b.counts.eraseIdxIfInBounds i).toList
        rw [Array.toList_eraseIdxIfInBounds, h.size_eq]
        omega

theorem balanced_addRuns (h : b.Balanced) (runs : List (α × Nat)) : (b.addRuns runs).Balanced :=
  List.foldlRecOn (motive := fun b : Builder α => b.Balanced) runs _ h
    fun _ h r _ => balanced_addMany h r.1 r.2

theorem balanced_addAll (h : b.Balanced) (items : List α) : (b.addAll items).Balanced :=
  List.foldlRecOn (motive := fun b : Builder α => b.Balanced) items _ h
    fun _ h x _ => balanced_addMany h x 1

theorem balanced_removeAll (h : b.Balanced) (items : List α) : (b.removeAll items).Balanced :=
  List.foldlRecOn (motive := fun b : Builder α => b.Balanced) items _ h
    fun _ h x _ => balanced_removeMany h x 1

/-! ### Freezing -/

/-- **Freezing a balanced builder** gives the columns of the builder. -/
theorem freeze_eq_of_balanced (h : b.Balanced) : b.freeze.value = ⟨b.toColumns⟩ := by
  unfold freeze
  rw [Traced.value_bind, Traced.value_pure]
  split_ifs with hempty
  · have helements : b.elements = #[] := by simpa using hempty
    have hcounts : b.counts = #[] :=
      Array.eq_empty_of_size_eq_zero (by rw [h.length_eq, helements]; rfl)
    have hzero : b.size = 0 := by rw [h.size_eq, hcounts]; rfl
    obtain ⟨elements, counts, c, size⟩ := b
    obtain ⟨rfl, rfl, rfl⟩ := And.intro helements (And.intro hcounts hzero)
    rfl
  · rw [Bag.assemble, ← h.size_eq]

theorem freeze_eq (h : b.SoundIn c) : b.freeze.value = ⟨b.toColumns⟩ :=
  freeze_eq_of_balanced h.balanced

theorem soundIn_freeze (h : b.SoundIn c) : b.freeze.value.SoundIn c := by
  rw [freeze_eq h]
  exact h

/-! ### Filling in order -/

/-- An element that is greater than all others is appended. -/
theorem entries_addMany_behind (h : b.SoundIn c) (hn : n ≠ 0)
    (hlt : ∀ s ∈ b.entries, c.compare s.1 e = .lt) :
    (b.addMany e n).entries = b.entries ++ [(e, n)] := by
  rw [entries_addMany_absent hn (h.search_of_all_lt hlt) h.length_eq (Nat.le_refl _),
    h.elements_size, List.insertIdx_length_self]

theorem soundIn_addMany_behind (h : b.SoundIn c) (hn : n ≠ 0)
    (hlt : ∀ s ∈ b.entries, c.compare s.1 e = .lt) : (b.addMany e n).SoundIn c := by
  refine Columns.soundIn_iff_balanced.mpr ⟨balanced_addMany h.balanced e n, ?_, ?_⟩
  · rw [entries_addMany_behind h hn hlt]
    exact h.sortedRuns.concat (Nat.pos_of_ne_zero hn) hlt
  · rw [comparator_addMany]
    exact h.comparator_eq

/-- **Runs that follow in order are appended.**  Each is greater than all before it, so this takes no law
of the comparator. -/
theorem addRuns_behind {runs : List (α × Nat)} (h : b.SoundIn c)
    (hsorted : SortedRuns c.compare (b.entries ++ runs)) :
    (b.addRuns runs).SoundIn c ∧ (b.addRuns runs).entries = b.entries ++ runs := by
  unfold addRuns
  induction runs generalizing b with
  | nil => exact ⟨h, (List.append_nil _).symm⟩
  | cons r runs ih =>
    have hpos : r.2 ≠ 0 := Nat.ne_of_gt (hsorted.positive r (by simp))
    have hlt : ∀ s ∈ b.entries, c.compare s.1 r.1 = .lt := fun s hs =>
      (List.pairwise_append.mp hsorted.ascending).2.2 s hs r (by simp)
    have happend : b.entries ++ r :: runs = (b.addMany r.1 r.2).entries ++ runs := by
      rw [entries_addMany_behind h hpos hlt, List.append_assoc]
      rfl
    rw [happend] at hsorted ⊢
    exact ih (soundIn_addMany_behind h hpos hlt) hsorted

/-- **A bag is made of ascending runs** by filling a builder and freezing it. -/
theorem soundIn_freeze_addRuns {runs : List (α × Nat)} (h : SortedRuns c.compare runs) :
    ((empty c).addRuns runs).freeze.value.SoundIn c :=
  soundIn_freeze (addRuns_behind (soundIn_empty c) h).1

theorem entries_freeze_addRuns {runs : List (α × Nat)} (h : SortedRuns c.compare runs) :
    ((empty c).addRuns runs).freeze.value.entries = runs := by
  rw [entries_freeze]
  exact (addRuns_behind (soundIn_empty c) h).2

variable [Std.TransCmp c.compare]

/-! ### Adding -/

/-- **Adding on runs.** -/
theorem entries_addMany (h : b.SoundIn c) (e : α) (n : Nat) :
    (b.addMany e n).entries = addRun c.compare e n b.entries := by
  by_cases hn : n = 0
  · rw [hn, addMany_zero, addRun_zero]
  rw [addRun_of_ne_zero hn]
  cases hs : b.search e with
  | found i => rw [entries_addMany_found hn hs, h.grow_found hs]
  | absent i =>
    rw [entries_addMany_absent hn hs h.length_eq (h.balanced.absent_le hs).1, h.insert_absent hs]

theorem soundIn_addMany (h : b.SoundIn c) (e : α) (n : Nat) : (b.addMany e n).SoundIn c := by
  refine Columns.soundIn_iff_balanced.mpr ⟨balanced_addMany h.balanced e n, ?_, ?_⟩
  · rw [entries_addMany h]
    exact sortedRuns_addRun h.sortedRuns
  · rw [comparator_addMany]
    exact h.comparator_eq

/-! ### Removing -/

omit [Std.TransCmp c.compare] in
theorem removeMany_zero (b : Builder α) (e : α) : b.removeMany e 0 = (false, b) := rfl

/-- **Removing on runs.** -/
theorem entries_removeMany (h : b.SoundIn c) (e : α) (n : Nat) :
    (b.removeMany e n).2.entries = removeRun c.compare e n b.entries := by
  by_cases hn : n = 0
  · rw [hn, removeMany_zero, removeRun_zero h.sortedRuns]
  cases hs : b.search e with
  | found i =>
    rcases Nat.lt_or_ge n (b.counts.getD i 0) with hlt | hge
    · rw [entries_removeMany_some hn hs hlt, h.shrink_found hs hlt]
    · rw [entries_removeMany_all hn hs hge, h.erase_found hs hge]
  | absent i => rw [removeMany_absent hs, h.remove_absent hs]

/-- **The answer of a removal**: there was something to remove. -/
theorem answer_removeMany (h : b.SoundIn c) (e : α) (n : Nat) :
    (b.removeMany e n).1 = (n != 0 && (findRun c.compare e b.entries).isSome) := by
  by_cases hn : n = 0
  · rw [hn]
    rfl
  cases hs : b.search e with
  | found i =>
    obtain ⟨r, hr, -⟩ := h.findRun_of_found hs
    rw [hr]
    simp only [removeMany, hn, hs, if_false]
    split <;> simp [hn]
  | absent i =>
    rw [h.findRun_of_absent hs, removeMany_absent hs, Option.isSome_none, Bool.and_false]

theorem soundIn_removeMany (h : b.SoundIn c) (e : α) (n : Nat) :
    (b.removeMany e n).2.SoundIn c := by
  refine Columns.soundIn_iff_balanced.mpr ⟨balanced_removeMany h.balanced e n, ?_, ?_⟩
  · rw [entries_removeMany h]
    exact sortedRuns_removeRun h.sortedRuns
  · rw [comparator_removeMany]
    exact h.comparator_eq

/-! ### Long additions and removals -/

theorem soundIn_addRuns (h : b.SoundIn c) (runs : List (α × Nat)) : (b.addRuns runs).SoundIn c :=
  List.foldlRecOn (motive := fun b : Builder α => b.SoundIn c) runs _ h
    fun _ h r _ => soundIn_addMany h r.1 r.2

theorem soundIn_addAll (h : b.SoundIn c) (items : List α) : (b.addAll items).SoundIn c :=
  List.foldlRecOn (motive := fun b : Builder α => b.SoundIn c) items _ h
    fun _ h x _ => soundIn_addMany h x 1

theorem soundIn_removeAll (h : b.SoundIn c) (items : List α) : (b.removeAll items).SoundIn c :=
  List.foldlRecOn (motive := fun b : Builder α => b.SoundIn c) items _ h
    fun _ h x _ => soundIn_removeMany h x 1

theorem entries_addAll (h : b.SoundIn c) (items : List α) :
    (b.addAll items).entries = items.foldl (fun rs x => addRun c.compare x 1 rs) b.entries := by
  unfold addAll
  induction items generalizing b with
  | nil => rfl
  | cons x items ih =>
    have hx : (b.add x).entries = addRun c.compare x 1 b.entries := entries_addMany h x 1
    have hsound : (b.add x).SoundIn c := soundIn_addMany h x 1
    rw [List.foldl_cons, List.foldl_cons, ih hsound, hx]

theorem entries_removeAll (h : b.SoundIn c) (items : List α) :
    (b.removeAll items).entries =
      items.foldl (fun rs x => removeRun c.compare x 1 rs) b.entries := by
  unfold removeAll
  induction items generalizing b with
  | nil => rfl
  | cons x items ih =>
    rw [List.foldl_cons, List.foldl_cons, ih (soundIn_removeMany h x 1), entries_removeMany h]

end Builder

end SortedMultiset
