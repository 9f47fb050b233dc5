import SortedMultiset.Proofs.Bag.Edit
import SortedMultiset.Proofs.Bag.Split
import SortedMultiset.Proofs.Digest

/-!
# Content hashes that follow a change

A content hash is a sum, so it can be kept up to date.  An edit changes one run, wherever that stands,
and with it one word of the sum (`Bag.entries_around`, `Bag.entries_around_absent`).  The word is that of
the stored representative.  What was handed in for the edit is hashed only if its class is new.  A split
deals out whole runs, and with them their words (`Bag.digest_of_perm`).

Words are taken modulo 2⁶⁴, so the old word can be taken away again whatever the others are.

* `Bag.digest_changes`: the content hash of the parts of a bag, and after an edit.
-/

namespace SortedMultiset.Bag

variable {σ α : Type} {b parts parts' : Bag α} {c : Comparator α} {e : α} {n : Nat} {r : α × Nat}

/-! ### Parts -/

/-- The answers deal out all runs. -/
theorem chosen_perm {answers : List Bool} {runs : List (α × Nat)}
    (hlen : answers.length = runs.length) :
    (chosen true answers runs ++ chosen false answers runs).Perm runs := by
  induction runs generalizing answers with
  | nil =>
    obtain rfl := List.eq_nil_of_length_eq_zero hlen
    exact .nil
  | cons r runs ih =>
    obtain ⟨answer, answers, rfl⟩ := List.exists_cons_of_length_eq_add_one hlen
    have htail := ih (Nat.succ.inj hlen)
    cases answer with
    | true => exact htail.cons r
    | false => exact List.perm_middle.trans (htail.cons r)

/-- Parts that have all runs of a bag have its words. -/
theorem digest_of_perm (h : (parts.entries ++ parts'.entries).Perm b.entries) (hash : α → UInt64) :
    b.digest hash = parts.digest hash + parts'.digest hash :=
  (digestRuns_perm h.symm hash).trans (digestRuns_append hash _ _)

theorem digest_partitionM (h : b.SoundIn c) (p : Probe σ α) (state : σ) (hash : α → UInt64) :
    b.digest hash =
      ((b.partitionM p).run state).1.value.selected.digest hash +
        ((b.partitionM p).run state).1.value.rejected.digest hash := by
  obtain ⟨hselected, hrejected⟩ := entries_partitionM h p state
  refine digest_of_perm ?_ hash
  rw [hselected, hrejected]
  exact chosen_perm ((b.length_answers p state).trans h.elements_size)

theorem digest_spanM (h : b.SoundIn c) (p : Probe σ α) (state : σ) (hash : α → UInt64) :
    b.digest hash =
      ((b.spanM p).run state).1.value.selected.digest hash +
        ((b.spanM p).run state).1.value.rejected.digest hash := by
  obtain ⟨hselected, hrejected⟩ := entries_spanM h p state
  refine digest_of_perm ?_ hash
  rw [hselected, hrejected, List.take_append_drop]

/-! ### Edits -/

section Lawful

variable [Std.TransCmp c.compare]

/-- The runs around one that an edit changes. -/
theorem entries_around (h : b.SoundIn c) (hr : r ∈ b.entries) (he : c.compare r.1 e = .eq) :
    ∃ pre post, b.entries = pre ++ r :: post ∧
      (∀ n, 0 < n → (b.insertMany e n).value.entries = pre ++ (r.1, r.2 + n) :: post) ∧
      (1 < r.2 → (b.erase e).value.entries = pre ++ (r.1, r.2 - 1) :: post) ∧
      (¬1 < r.2 → (b.erase e).value.entries = pre ++ post) := by
  obtain ⟨pre, post, hentries⟩ := List.append_of_mem hr
  have hlt : ∀ s ∈ pre, c.compare s.1 e = .lt := by
    have hsorted := h.sortedRuns.ascending
    rw [hentries] at hsorted
    intro s hs
    exact Std.TransCmp.lt_of_lt_of_eq ((List.pairwise_append.mp hsorted).2.2 s hs r (by simp)) he
  refine ⟨pre, post, hentries, fun n hn => ?_, fun hmore => ?_, fun hlast => ?_⟩
  · rw [entries_insertMany h, addRun_of_ne_zero (Nat.ne_of_gt hn), hentries,
      insertRun_append_of_lt hlt, insertRun_of_eq he]
  · rw [entries_erase h, hentries, removeRun_append_of_lt hlt, removeRun_of_eq he, if_pos hmore]
  · rw [entries_erase h, hentries, removeRun_append_of_lt hlt, removeRun_of_eq he, if_neg hlast]

/-- The runs around one that an addition puts in. -/
theorem entries_around_absent (h : b.SoundIn c) (he : b.contains e = false) :
    ∃ pre post, b.entries = pre ++ post ∧
      ∀ n, 0 < n → (b.insertMany e n).value.entries = pre ++ (e, n) :: post := by
  unfold Columns.contains at he
  cases hs : b.search e with
  | found i =>
    rw [hs] at he
    exact Bool.noConfusion he
  | absent i =>
    obtain ⟨pre, post, hentries, -, hlt, hgt⟩ := h.search_absent hs
    refine ⟨pre, post, hentries, fun n hn => ?_⟩
    rw [entries_insertMany h, addRun_of_ne_zero (Nat.ne_of_gt hn), hentries,
      insertRun_append_of_lt hlt, insertRun_of_all_gt hgt]

theorem digest_insertMany_stored (h : b.SoundIn c) (hr : r ∈ b.entries) (he : c.compare r.1 e = .eq)
    (hn : 0 < n) (hash : α → UInt64) :
    (b.insertMany e n).value.digest hash =
      b.digest hash - (hash r.1 ^^^ .ofNat r.2) + (hash r.1 ^^^ .ofNat (r.2 + n)) := by
  obtain ⟨pre, post, hentries, hinsert, -, -⟩ := entries_around h hr he
  have hbefore : b.digest hash = digestRuns hash (pre ++ r :: post) := congrArg _ hentries
  have hafter : (b.insertMany e n).value.digest hash =
      digestRuns hash (pre ++ (r.1, r.2 + n) :: post) := congrArg _ (hinsert n hn)
  rw [hbefore, hafter, digestRuns_middle, digestRuns_middle, UInt64.add_sub_cancel]

theorem digest_erase_stored (h : b.SoundIn c) (hr : r ∈ b.entries) (he : c.compare r.1 e = .eq)
    (hash : α → UInt64) :
    (b.erase e).value.digest hash =
      b.digest hash - (hash r.1 ^^^ .ofNat r.2) +
        if 1 < r.2 then hash r.1 ^^^ .ofNat (r.2 - 1) else 0 := by
  obtain ⟨pre, post, hentries, -, hmore, hlast⟩ := entries_around h hr he
  have hbefore : b.digest hash = digestRuns hash (pre ++ r :: post) := congrArg _ hentries
  rw [hbefore, digestRuns_middle, UInt64.add_sub_cancel]
  split_ifs with hcount
  · have hafter : (b.erase e).value.digest hash =
        digestRuns hash (pre ++ (r.1, r.2 - 1) :: post) := congrArg _ (hmore hcount)
    rw [hafter, digestRuns_middle]
  · have hafter : (b.erase e).value.digest hash = digestRuns hash (pre ++ post) :=
      congrArg _ (hlast hcount)
    rw [hafter, UInt64.add_zero]

theorem digest_insertMany_absent (h : b.SoundIn c) (he : b.contains e = false) (hn : 0 < n)
    (hash : α → UInt64) :
    (b.insertMany e n).value.digest hash = b.digest hash + (hash e ^^^ .ofNat n) := by
  obtain ⟨pre, post, hentries, hinsert⟩ := entries_around_absent h he
  have hbefore : b.digest hash = digestRuns hash (pre ++ post) := congrArg _ hentries
  have hafter : (b.insertMany e n).value.digest hash = digestRuns hash (pre ++ (e, n) :: post) :=
    congrArg _ (hinsert n hn)
  rw [hbefore, hafter, digestRuns_middle]

/-- An element is contained if a run of its class is listed. -/
theorem contains_iff_mem_entries (h : b.SoundIn c) (e : α) :
    b.contains e = true ↔ ∃ r k, (r, k) ∈ b.entries ∧ c.compare r e = .eq := by
  rw [h.contains_eq, Option.isSome_iff_exists]
  simp only [h.sortedRuns.findRun_eq_some_iff]
  exact Prod.exists

end Lawful

/-- **Content hashes follow changes**, whatever the hash of an element is.  The words of a bag are those of
its two parts together, in both ways to split it and whatever the probe remembers.  An edit of a class that
is stored takes the word of its run away and adds that of the run as it is afterwards, if there is one; the
representative stays.  A class that is new adds the word of its first run. -/
theorem digest_changes (hb : b.WellFormed) (hash : α → UInt64) (p : Probe σ α) (state : σ) :
    b.digest hash =
      ((b.partitionM p).run state).1.value.selected.digest hash +
        ((b.partitionM p).run state).1.value.rejected.digest hash ∧
    b.digest hash =
      ((b.spanM p).run state).1.value.selected.digest hash +
        ((b.spanM p).run state).1.value.rejected.digest hash ∧
    (Std.TransCmp b.comparator.compare → ∀ e,
      (b.contains e = true ↔ ∃ r k, (r, k) ∈ b.entries ∧ b.comparator.compare r e = .eq) ∧
      (∀ r k, (r, k) ∈ b.entries → b.comparator.compare r e = .eq →
        (∀ n, 0 < n → (b.insertMany e n).value.digest hash =
          b.digest hash - (hash r ^^^ .ofNat k) + (hash r ^^^ .ofNat (k + n))) ∧
        (b.erase e).value.digest hash =
          b.digest hash - (hash r ^^^ .ofNat k) +
            if 1 < k then hash r ^^^ .ofNat (k - 1) else 0) ∧
      (b.contains e = false → ∀ n, 0 < n →
        (b.insertMany e n).value.digest hash = b.digest hash + (hash e ^^^ .ofNat n))) := by
  have h := hb.soundIn
  refine ⟨digest_partitionM h p state hash, digest_spanM h p state hash, fun _ e => ⟨?_, ?_, ?_⟩⟩
  · exact contains_iff_mem_entries h e
  · intro r k hr he
    exact ⟨fun n hn => digest_insertMany_stored h hr he hn hash, digest_erase_stored h hr he hash⟩
  · exact fun he n hn => digest_insertMany_absent h he hn hash

/-- Numbers by tens, hashed as themselves.  19 is stored as 12 and 51 is stored once; 40 is new. -/
theorem digest_changes_byTens :
    let b : Bag Nat := ⟨⟨#[12, 25, 51], #[2, 3, 1], .byKey 0 (· / 10), 6⟩⟩
    let p : Probe Bool Nat := fun _ => modifyGet fun said => (!said, !said)
    let hash : Nat → UInt64 := .ofNat
    b.WellFormed ∧
      b.digest hash = ((b.partitionM p).run false).1.value.selected.digest hash +
        ((b.partitionM p).run false).1.value.rejected.digest hash ∧
      (b.insertMany 19 4).value.digest hash = b.digest hash - (12 ^^^ 2) + (12 ^^^ 6) ∧
      (b.erase 19).value.digest hash = b.digest hash - (12 ^^^ 2) + (12 ^^^ 1) ∧
      (b.erase 53).value.digest hash = b.digest hash - (51 ^^^ 1) + 0 ∧
      (b.insertMany 40 7).value.digest hash = b.digest hash + (40 ^^^ 7) := by
  intro b p hash
  have hb : b.WellFormed := by decide
  obtain ⟨hparts, -, hedits⟩ := digest_changes hb hash p false
  obtain ⟨-, hfirst, -⟩ := hedits inferInstance 19
  obtain ⟨-, hlast, -⟩ := hedits inferInstance 53
  obtain ⟨-, -, hnew⟩ := hedits inferInstance 40
  exact ⟨hb, hparts, (hfirst 12 2 (by decide) (by decide)).1 4 (by decide),
    (hfirst 12 2 (by decide) (by decide)).2, (hlast 51 1 (by decide) (by decide)).2,
    hnew (by decide +kernel) 7 (by decide)⟩

end SortedMultiset.Bag
