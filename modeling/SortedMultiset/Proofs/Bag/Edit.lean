import SortedMultiset.Bag.Edit
import SortedMultiset.Proofs.Builder

/-!
# What the edits of a bag do to its runs

The edits that splice the columns of a bag are `addRun` and `removeRun` on its runs, as those of a
builder are (`Bag.entries_insertMany`, `Bag.entries_erase`), and the bags they give are sound and in
the same order (`Bag.soundIn_insertMany`, `Bag.soundIn_erase`).  The edits that go through a builder
are sound since builders are.
-/

namespace SortedMultiset.Bag

variable {α : Type} {b b' : Bag α} {c : Comparator α} {e : α} {n : Nat}

theorem soundIn_empty (c : Comparator α) : (empty c).SoundIn c := Columns.soundIn_empty c

/-- Sound bags in one order with the same runs are the same. -/
theorem ext_entries (h : b.SoundIn c) (h' : b'.SoundIn c) (he : b.entries = b'.entries) :
    b = b' := by
  have ht : b.toColumns = b'.toColumns := h.ext h' he
  cases b
  cases b'
  exact congrArg Bag.mk ht

/-- Two columns of one length make a sound bag if their runs are sorted: the total is summed. -/
theorem soundIn_assemble {elements : Array α} {counts : Array Nat}
    (hlen : counts.size = elements.size)
    (h : SortedRuns c.compare (assemble elements counts c).entries) :
    (assemble elements counts c).SoundIn c :=
  Columns.soundIn_iff_balanced.mpr ⟨⟨hlen, rfl⟩, h, rfl⟩

/-- An addition that has an effect assembles columns of one length. -/
theorem insertMany_assembles (h : b.SoundIn c) (e : α) (hn : n ≠ 0) :
    ∃ elements counts, counts.size = elements.size ∧
      (b.insertMany e n).value = assemble elements counts c := by
  unfold insertMany
  rw [if_neg hn, h.comparator_eq]
  cases hs : b.search e with
  | found i => exact ⟨_, _, by rw [Array.size_modify]; exact h.length_eq, rfl⟩
  | absent i =>
    have hi := (h.balanced.absent_le hs).1
    refine ⟨_, _, ?_, rfl⟩
    have hlen := h.length_eq
    simp only [Array.size_append, Array.size_extract, List.size_toArray, List.length_cons]
    omega

/-- A removal gives the bag itself or assembles columns of one length. -/
theorem erase_assembles (h : b.SoundIn c) (e : α) :
    (b.erase e).value = b ∨ ∃ elements counts, counts.size = elements.size ∧
      (b.erase e).value = assemble elements counts c := by
  unfold erase
  rw [h.comparator_eq]
  cases hs : b.search e with
  | absent i => exact Or.inl rfl
  | found i =>
    refine Or.inr ?_
    dsimp only
    split_ifs with hcount
    · exact ⟨_, _, by rw [Array.size_modify]; exact h.length_eq, rfl⟩
    · refine ⟨_, _, ?_, rfl⟩
      have hlen := h.length_eq
      simp only [Array.size_append, Array.size_extract]
      omega

variable [Std.TransCmp c.compare]

/-! ### Adding -/

/-- **Adding on runs.** -/
theorem entries_insertMany (h : b.SoundIn c) (e : α) (n : Nat) :
    (b.insertMany e n).value.entries = addRun c.compare e n b.entries := by
  by_cases hn : n = 0
  · rw [hn, insertMany_zero, addRun_zero]
    rfl
  rw [addRun_of_ne_zero hn]
  cases hs : b.search e with
  | found i => rw [entries_insertMany_found hn hs, h.grow_found hs]
  | absent i =>
    rw [entries_insertMany_absent hn hs h.length_eq (h.balanced.absent_le hs).1, h.insert_absent hs]

theorem soundIn_insertMany (h : b.SoundIn c) (e : α) (n : Nat) :
    (b.insertMany e n).value.SoundIn c := by
  by_cases hn : n = 0
  · rw [hn, insertMany_zero]
    exact h
  obtain ⟨elements, counts, hlen, heq⟩ := insertMany_assembles h e hn
  have hsorted := sortedRuns_addRun (e := e) (n := n) h.sortedRuns
  rw [← entries_insertMany h, heq] at hsorted
  rw [heq]
  exact soundIn_assemble hlen hsorted

theorem soundIn_insert (h : b.SoundIn c) (e : α) : (b.insert e).value.SoundIn c :=
  soundIn_insertMany h e 1

/-! ### Removing -/

omit [Std.TransCmp c.compare] in
theorem erase_of_not_contains (he : b.contains e = false) : b.erase e = pure b := by
  unfold Columns.contains at he
  cases hs : b.search e with
  | found i =>
    rw [hs] at he
    exact Bool.noConfusion he
  | absent i => exact erase_absent hs

/-- **Removing on runs.** -/
theorem entries_erase (h : b.SoundIn c) (e : α) :
    (b.erase e).value.entries = removeRun c.compare e 1 b.entries := by
  cases hs : b.search e with
  | found i =>
    rcases Nat.lt_or_ge 1 (b.counts.getD i 0) with hlt | hge
    · rw [entries_erase_some hs hlt, h.shrink_found hs hlt]
    · rw [entries_erase_last hs hge, h.erase_found hs hge]
  | absent i => rw [erase_absent hs, Traced.value_pure, h.remove_absent hs]

theorem soundIn_erase (h : b.SoundIn c) (e : α) : (b.erase e).value.SoundIn c := by
  rcases erase_assembles h e with heq | ⟨elements, counts, hlen, heq⟩
  · rw [heq]
    exact h
  · have hsorted := sortedRuns_removeRun (e := e) (n := 1) h.sortedRuns
    rw [← entries_erase h, heq] at hsorted
    rw [heq]
    exact soundIn_assemble hlen hsorted

/-! ### Long additions and removals -/

theorem soundIn_insertAll (h : b.SoundIn c) (items : List α) :
    (b.insertAll items).value.SoundIn c :=
  Builder.soundIn_freeze (Builder.soundIn_addAll (Builder.soundIn_ofBag h) items)

theorem soundIn_eraseAll (h : b.SoundIn c) (items : List α) :
    (b.eraseAll items).value.SoundIn c :=
  Builder.soundIn_freeze (Builder.soundIn_removeAll (Builder.soundIn_ofBag h) items)

end SortedMultiset.Bag
