import SortedMultiset.Columns
import SortedMultiset.Proofs.Runs.Edit

/-!
# Sound columns and their runs

`Columns.SoundIn` is a sound layout in the order of a given comparator.  It is sound exactly when
its columns have one length, its runs are sorted and its cached total is the total of the runs
(`Columns.soundIn_iff`).  So a sound layout is its runs (`Columns.SoundIn.ext`), and every answer it
gives is an answer about them.

* `Columns.SoundIn.search_found`, `Columns.SoundIn.search_absent`: a search cuts the runs into those
  of the lesser elements, the run that matches, if there is one, and those of the greater elements;
* `Columns.SoundIn.found_eq`, `Columns.SoundIn.absent_ne`: the slot is the number of lesser elements;
* `Columns.SoundIn.grow_found`, `Columns.SoundIn.insert_absent`, `Columns.SoundIn.shrink_found`,
  `Columns.SoundIn.erase_found`: an edit at the slot of an element is an edit of the runs;
* `Columns.SoundIn.count_eq`, `Columns.SoundIn.contains_eq`: the questions by element.
-/

namespace SortedMultiset

variable {α : Type} {cmp : α → α → Ordering} {e : α} {n : Nat} {r : α × Nat}
  {rs pre post : List (α × Nat)}

/-! ### Runs around a slot -/

theorem findRun_append_of_lt (hpre : ∀ s ∈ pre, cmp s.1 e = .lt) :
    findRun cmp e (pre ++ rs) = findRun cmp e rs := by
  induction pre with
  | nil => rfl
  | cons s pre ih =>
    rw [List.cons_append, findRun_cons_of_lt (hpre s (by simp))]
    exact ih fun t ht => hpre t (List.mem_cons_of_mem _ ht)

theorem insertRun_append_of_lt (hpre : ∀ s ∈ pre, cmp s.1 e = .lt) :
    insertRun cmp e n (pre ++ rs) = pre ++ insertRun cmp e n rs := by
  induction pre with
  | nil => rfl
  | cons s pre ih =>
    rw [List.cons_append, insertRun_of_lt (hpre s (by simp)),
      ih fun t ht => hpre t (List.mem_cons_of_mem _ ht), List.cons_append]

theorem removeRun_append_of_lt (hpre : ∀ s ∈ pre, cmp s.1 e = .lt) :
    removeRun cmp e n (pre ++ rs) = pre ++ removeRun cmp e n rs := by
  induction pre with
  | nil => rfl
  | cons s pre ih =>
    rw [List.cons_append, removeRun_of_lt (hpre s (by simp)),
      ih fun t ht => hpre t (List.mem_cons_of_mem _ ht), List.cons_append]

theorem insertRun_of_all_gt (h : ∀ s ∈ rs, cmp s.1 e = .gt) :
    insertRun cmp e n rs = (e, n) :: rs := by
  cases rs with
  | nil => rfl
  | cons r rs => exact insertRun_of_gt (h r (by simp))

theorem modify_length_append (f : α × Nat → α × Nat) :
    (pre ++ r :: post).modify pre.length f = pre ++ f r :: post := by
  induction pre with
  | nil => rfl
  | cons s pre ih => simp [ih]

theorem insertIdx_length_append : (pre ++ post).insertIdx pre.length r = pre ++ r :: post := by
  induction pre with
  | nil => rfl
  | cons s pre ih => simp [ih]

theorem eraseIdx_length_append : (pre ++ r :: post).eraseIdx pre.length = pre ++ post := by
  rw [List.eraseIdx_append_of_length_le (Nat.le_refl _), Nat.sub_self, List.eraseIdx_cons_zero]

/-! ### Slots are ranks -/

/-- The slot of an element, or the one before which it belongs. -/
def Slot.index : Slot → Nat
  | found i => i
  | absent i => i

theorem eq_countP_lt {compareTo : α → Ordering} {xs : List α} {i : Nat} (hi : i ≤ xs.length)
    (hlt : ∀ x ∈ xs.take i, compareTo x = .lt) (hrest : ∀ x ∈ xs.drop i, compareTo x ≠ .lt) :
    i = xs.countP fun x => compareTo x == .lt := by
  have hbefore : (xs.take i).countP (fun x => compareTo x == .lt) = (xs.take i).length :=
    List.countP_eq_length.mpr fun x hx => by rw [hlt x hx]; rfl
  have hbehind : (xs.drop i).countP (fun x => compareTo x == .lt) = 0 :=
    List.countP_eq_zero.mpr fun x hx => by simpa using hrest x hx
  rw [← List.take_append_drop i xs, List.countP_append, hbefore, hbehind, List.length_take]
  omega

/-- **A slot that fits is a rank**: as many elements are less. -/
theorem Slot.Fits.index_eq {compareTo : α → Ordering} {xs : List α} {s : Slot}
    (h : s.Fits compareTo xs) : s.index = xs.countP fun x => compareTo x == .lt := by
  cases s with
  | found i =>
    obtain ⟨hlt, ⟨x, hx, heq⟩, hgt⟩ := h
    obtain ⟨hi, rfl⟩ := List.getElem?_eq_some_iff.mp hx
    show i = _
    refine eq_countP_lt (Nat.le_of_lt hi) hlt fun y hy => ?_
    rw [List.drop_eq_getElem_cons hi] at hy
    rcases List.mem_cons.mp hy with rfl | hy
    · rw [heq]
      exact Ordering.noConfusion
    · rw [hgt y hy]
      exact Ordering.noConfusion
  | absent i =>
    obtain ⟨hi, hlt, hgt⟩ := h
    refine eq_countP_lt hi hlt fun y hy => ?_
    rw [hgt y hy]
    exact Ordering.noConfusion

/-- **At most one slot fits.** -/
theorem Slot.Fits.unique {compareTo : α → Ordering} {xs : List α} {s s' : Slot}
    (h : s.Fits compareTo xs) (h' : s'.Fits compareTo xs) : s = s' := by
  have hindex : s.index = s'.index := h.index_eq.trans h'.index_eq.symm
  -- where an element is stored, what belongs there is not greater
  have hne : ∀ i, (found i).Fits compareTo xs → ¬(absent i).Fits compareTo xs := by
    rintro i ⟨-, ⟨x, hx, heq⟩, -⟩ ⟨-, -, hgt⟩
    obtain ⟨hi, rfl⟩ := List.getElem?_eq_some_iff.mp hx
    rw [List.drop_eq_getElem_cons hi] at hgt
    exact Ordering.noConfusion (heq.symm.trans (hgt _ List.mem_cons_self))
  cases s with
  | found i =>
    cases s' with
    | found j => exact congrArg found hindex
    | absent j =>
      obtain rfl : i = j := hindex
      exact absurd h' (hne i h)
  | absent i =>
    cases s' with
    | found j =>
      obtain rfl : i = j := hindex
      exact absurd h (hne i h')
    | absent j => exact congrArg absent hindex

/-- The slot of a stored element fits. -/
theorem Slot.fits_found {cmp : α → α → Ordering} [Std.OrientedCmp cmp] {xs : List α} {k : Nat} {x : α}
    (hasc : xs.Pairwise fun a b => cmp a b = .lt) (hx : xs[k]? = some x) :
    (found k).Fits (cmp · x) xs := by
  obtain ⟨hk, rfl⟩ := List.getElem?_eq_some_iff.mp hx
  have hsplit : xs = xs.take k ++ xs[k] :: xs.drop (k + 1) := by
    rw [← List.drop_eq_getElem_cons hk, List.take_append_drop]
  have hparts := hasc
  rw [hsplit] at hparts
  obtain ⟨-, hbehind, hbefore⟩ := List.pairwise_append.mp hparts
  refine ⟨fun y hy => hbefore y hy _ List.mem_cons_self, ⟨_, hx, Std.ReflCmp.compare_self⟩, ?_⟩
  intro y hy
  exact Std.OrientedCmp.gt_of_lt ((List.pairwise_cons.mp hbehind).1 y hy)

namespace Columns

variable {t : Columns α} {c : Comparator α} {i : Nat}

/-- The number of stored elements that are less than an element. -/
def rank (t : Columns α) (e : α) : Nat :=
  t.elements.toList.countP fun stored => t.comparator.compare stored e == .lt

/-- A sound layout in the order of a comparator. -/
structure SoundIn (t : Columns α) (c : Comparator α) : Prop where
  wellFormed : t.WellFormed
  comparator_eq : t.comparator = c

/-! ### Sound is sorted -/

theorem WellFormed.soundIn (h : t.WellFormed) : t.SoundIn t.comparator := ⟨h, rfl⟩

theorem soundIn_empty (c : Comparator α) : (empty c).SoundIn c := ⟨wellFormed_empty c, rfl⟩

theorem SoundIn.length_eq (h : t.SoundIn c) : t.counts.size = t.elements.size :=
  h.wellFormed.length_eq

theorem SoundIn.total_entries (h : t.SoundIn c) : total t.entries = t.size :=
  h.wellFormed.total_entries

theorem SoundIn.sortedRuns (h : t.SoundIn c) : SortedRuns c.compare t.entries := by
  obtain ⟨h, rfl⟩ := h
  constructor
  · have hp := h.ascending
    rw [← map_fst_entries h.length_eq, List.pairwise_map] at hp
    exact hp
  · intro r hr
    have hmem : r.2 ∈ t.entries.map Prod.snd := List.mem_map_of_mem hr
    rw [map_snd_entries h.length_eq] at hmem
    exact h.positive r.2 (by simpa using hmem)

/-- **Sound columns.** -/
theorem soundIn_iff :
    t.SoundIn c ↔ t.counts.size = t.elements.size ∧ SortedRuns c.compare t.entries ∧
      t.size = total t.entries ∧ t.comparator = c := by
  constructor
  · intro h
    exact ⟨h.length_eq, h.sortedRuns, h.total_entries.symm, h.comparator_eq⟩
  · rintro ⟨hlen, hsorted, hsize, rfl⟩
    refine ⟨⟨hlen, ?_, fun n hn => ?_, ?_⟩, rfl⟩
    · rw [← map_fst_entries hlen, List.pairwise_map]
      exact hsorted.ascending
    · have hmem : n ∈ t.counts.toList := by simpa using hn
      rw [← map_snd_entries hlen] at hmem
      obtain ⟨r, hr, rfl⟩ := List.mem_map.mp hmem
      exact hsorted.positive r hr
    · rw [hsize, total, map_snd_entries hlen]

/-- Sound layouts in one order with the same runs are the same. -/
theorem SoundIn.ext {s : Columns α} (hs : s.SoundIn c) (ht : t.SoundIn c)
    (he : s.entries = t.entries) : s = t :=
  hs.wellFormed.ext ht.wellFormed (hs.comparator_eq.trans ht.comparator_eq.symm) he

/-- The total on both sides of a slot. -/
theorem SoundIn.size_eq_append (h : t.SoundIn c) {pre post : List (α × Nat)}
    (he : t.entries = pre ++ post) : t.size = total pre + total post := by
  rw [← h.total_entries, he, total_append]

/-- There is a slot for every run. -/
theorem SoundIn.elements_size (h : t.SoundIn c) : t.elements.size = t.entries.length :=
  (length_entries h.length_eq).symm

/-- The slots on both sides of a slot. -/
theorem elements_size_append (h : t.counts.size = t.elements.size) {pre post : List (α × Nat)}
    (he : t.entries = pre ++ post) : t.elements.size = pre.length + post.length := by
  rw [← length_entries h, he, List.length_append]

theorem SoundIn.elements_size_append (h : t.SoundIn c) {pre post : List (α × Nat)}
    (he : t.entries = pre ++ post) : t.elements.size = pre.length + post.length :=
  Columns.elements_size_append h.length_eq he

/-- No occurrences are no elements. -/
theorem SoundIn.isEmpty_eq (h : t.SoundIn c) : (t.size == 0) = t.elements.isEmpty := by
  have hiff : t.size = 0 ↔ t.elements.size = 0 := by
    rw [← h.total_entries, h.sortedRuns.total_eq_zero_iff, ← List.length_eq_zero_iff,
      h.elements_size]
  rw [Bool.eq_iff_iff, beq_iff_eq, hiff, Array.isEmpty_iff_size_eq_zero]

/-- The element and the count that stand at the slot of a run are its own. -/
theorem getElem?_of_entries {pre post : List (α × Nat)} {r : α × Nat}
    (he : t.entries = pre ++ r :: post) :
    t.elements[pre.length]? = some r.1 ∧ t.counts[pre.length]? = some r.2 :=
  getElem?_entries.mp (by rw [he]; simp)

theorem getElem?_elements {pre post : List (α × Nat)} {r : α × Nat}
    (he : t.entries = pre ++ r :: post) : t.elements[pre.length]? = some r.1 :=
  (getElem?_of_entries he).1

theorem getD_counts {pre post : List (α × Nat)} {r : α × Nat}
    (he : t.entries = pre ++ r :: post) : t.counts.getD pre.length 0 = r.2 := by
  rw [Array.getD_eq_getD_getElem?, (getElem?_of_entries he).2]
  rfl

/-! ### What a search says about the runs -/

/-- **Behind lesser elements** a search ends at the end, even if the comparator has no laws. -/
theorem SoundIn.search_of_all_lt (h : t.SoundIn c) (hlt : ∀ r ∈ t.entries, c.compare r.1 e = .lt) :
    t.search e = .absent t.elements.size := by
  have hless : ∀ x ∈ t.elements.toList, t.comparator.compare x e = .lt := by
    rw [← map_fst_entries h.length_eq, h.comparator_eq]
    exact List.forall_mem_map.mpr hlt
  have hfits : (t.search e).Fits (fun stored => t.comparator.compare stored e) t.elements.toList :=
    search_fits (List.pairwise_of_forall_mem_list fun x hx _ _ hne => absurd (hless x hx) hne)
  cases hs : t.search e with
  | found i =>
    rw [hs] at hfits
    obtain ⟨-, ⟨x, hx, heq⟩, -⟩ := hfits
    exact absurd (heq.symm.trans (hless x (List.mem_of_getElem? hx))) Ordering.noConfusion
  | absent i =>
    rw [hs] at hfits
    obtain ⟨hi, -, hgt⟩ := hfits
    -- nothing is greater, so there is nothing behind the slot
    have hrest : t.elements.toList.drop i = [] := List.eq_nil_iff_forall_not_mem.mpr fun x hx =>
      absurd ((hgt x hx).symm.trans (hless x (List.mem_of_mem_drop hx))) Ordering.noConfusion
    rw [Nat.le_antisymm hi (List.drop_eq_nil_iff.mp hrest), Array.length_toList]

variable [Std.TransCmp c.compare]

/-- The runs around the slot of a stored element. -/
theorem SoundIn.search_found (h : t.SoundIn c) (hs : t.search e = .found i) :
    ∃ pre r post, t.entries = pre ++ r :: post ∧ pre.length = i ∧
      (∀ s ∈ pre, c.compare s.1 e = .lt) ∧ c.compare r.1 e = .eq ∧
      ∀ s ∈ post, c.compare s.1 e = .gt := by
  obtain ⟨h, rfl⟩ := h
  have hfits := h.search_fits e
  rw [hs, ← map_fst_entries h.length_eq] at hfits
  obtain ⟨hlt, ⟨x, hx, heq⟩, hgt⟩ := hfits
  rw [List.getElem?_map, Option.map_eq_some_iff] at hx
  obtain ⟨r, hr, rfl⟩ := hx
  obtain ⟨hi, rfl⟩ := List.getElem?_eq_some_iff.mp hr
  refine ⟨t.entries.take i, t.entries[i], t.entries.drop (i + 1), ?_, ?_, ?_, heq, ?_⟩
  · rw [← List.drop_eq_getElem_cons hi, List.take_append_drop]
  · rw [List.length_take]
    omega
  · intro s hs
    exact hlt s.1 (by rw [← List.map_take]; exact List.mem_map_of_mem hs)
  · intro s hs
    exact hgt s.1 (by rw [← List.map_drop]; exact List.mem_map_of_mem hs)

/-- The runs around the place of an element that is not stored. -/
theorem SoundIn.search_absent (h : t.SoundIn c) (hs : t.search e = .absent i) :
    ∃ pre post, t.entries = pre ++ post ∧ pre.length = i ∧
      (∀ s ∈ pre, c.compare s.1 e = .lt) ∧ ∀ s ∈ post, c.compare s.1 e = .gt := by
  obtain ⟨h, rfl⟩ := h
  have hfits := h.search_fits e
  rw [hs, ← map_fst_entries h.length_eq] at hfits
  obtain ⟨hi, hlt, hgt⟩ := hfits
  rw [List.length_map] at hi
  refine ⟨t.entries.take i, t.entries.drop i, (List.take_append_drop _ _).symm, ?_, ?_, ?_⟩
  · rw [List.length_take]
    omega
  · intro s hs
    exact hlt s.1 (by rw [← List.map_take]; exact List.mem_map_of_mem hs)
  · intro s hs
    exact hgt s.1 (by rw [← List.map_drop]; exact List.mem_map_of_mem hs)

/-- **A search for a stored element** finds its slot. -/
theorem SoundIn.search_element (h : t.SoundIn c) (hx : t.elements.toList[i]? = some e) :
    t.search e = .found i := by
  obtain ⟨h, rfl⟩ := h
  exact (h.search_fits e).unique (Slot.fits_found h.ascending hx)

/-- The slot of a stored element is its rank, and holds a like one. -/
theorem SoundIn.found_eq (h : t.SoundIn c) (hs : t.search e = .found i) :
    i = t.rank e ∧ ∃ x, t.elements[i]? = some x ∧ c.compare x e = .eq := by
  obtain ⟨h, rfl⟩ := h
  have hfits := h.search_fits e
  have hrank := hfits.index_eq
  rw [hs] at hfits hrank
  obtain ⟨-, ⟨x, hx, heq⟩, -⟩ := hfits
  exact ⟨hrank, x, by rwa [Array.getElem?_toList] at hx, heq⟩

/-- The place of an element that is not stored is its rank, and no element is like it. -/
theorem SoundIn.absent_ne (h : t.SoundIn c) (hs : t.search e = .absent i) :
    i = t.rank e ∧ ∀ x ∈ t.elements, c.compare x e ≠ .eq := by
  obtain ⟨h, rfl⟩ := h
  have hfits := h.search_fits e
  have hrank := hfits.index_eq
  rw [hs] at hfits hrank
  obtain ⟨-, hlt, hgt⟩ := hfits
  refine ⟨hrank, fun x hx => ?_⟩
  rw [← Array.mem_toList_iff, ← List.take_append_drop i t.elements.toList] at hx
  rcases List.mem_append.mp hx with hx | hx
  · exact fun heq => Ordering.noConfusion (heq.symm.trans (hlt x hx))
  · exact fun heq => Ordering.noConfusion (heq.symm.trans (hgt x hx))

theorem SoundIn.findRun_of_found (h : t.SoundIn c) (hs : t.search e = .found i) :
    ∃ r, findRun c.compare e t.entries = some r ∧ t.counts.getD i 0 = r.2 := by
  obtain ⟨pre, r, post, he, rfl, hlt, heq, -⟩ := h.search_found hs
  refine ⟨r, ?_, getD_counts he⟩
  rw [he, findRun_append_of_lt hlt, findRun_cons_of_eq heq]

theorem SoundIn.findRun_of_absent (h : t.SoundIn c) (hs : t.search e = .absent i) :
    findRun c.compare e t.entries = none := by
  obtain ⟨pre, post, he, -, hlt, hgt⟩ := h.search_absent hs
  rw [he, findRun_append_of_lt hlt]
  exact findRun_of_gt hgt

/-! ### Edits at the slot of an element -/

theorem SoundIn.grow_found (h : t.SoundIn c) (hs : t.search e = .found i) (n : Nat) :
    (t.entries.modify i fun r => (r.1, r.2 + n)) = insertRun c.compare e n t.entries := by
  obtain ⟨pre, r, post, he, rfl, hlt, heq, -⟩ := h.search_found hs
  rw [he, modify_length_append, insertRun_append_of_lt hlt, insertRun_of_eq heq]

theorem SoundIn.insert_absent (h : t.SoundIn c) (hs : t.search e = .absent i) (n : Nat) :
    t.entries.insertIdx i (e, n) = insertRun c.compare e n t.entries := by
  obtain ⟨pre, post, he, rfl, hlt, hgt⟩ := h.search_absent hs
  rw [he, insertIdx_length_append, insertRun_append_of_lt hlt, insertRun_of_all_gt hgt]

theorem SoundIn.shrink_found (h : t.SoundIn c) (hs : t.search e = .found i)
    (hn : n < t.counts.getD i 0) :
    (t.entries.modify i fun r => (r.1, r.2 - n)) = removeRun c.compare e n t.entries := by
  obtain ⟨pre, r, post, he, rfl, hlt, heq, -⟩ := h.search_found hs
  rw [getD_counts he] at hn
  rw [he, modify_length_append, removeRun_append_of_lt hlt, removeRun_of_eq heq, if_pos hn]

theorem SoundIn.erase_found (h : t.SoundIn c) (hs : t.search e = .found i)
    (hn : t.counts.getD i 0 ≤ n) :
    t.entries.eraseIdx i = removeRun c.compare e n t.entries := by
  obtain ⟨pre, r, post, he, rfl, hlt, heq, -⟩ := h.search_found hs
  rw [getD_counts he] at hn
  rw [he, eraseIdx_length_append, removeRun_append_of_lt hlt, removeRun_of_eq heq,
    if_neg (Nat.not_lt.mpr hn)]

theorem SoundIn.remove_absent (h : t.SoundIn c) (hs : t.search e = .absent i) (n : Nat) :
    removeRun c.compare e n t.entries = t.entries := by
  obtain ⟨pre, post, he, -, hlt, hgt⟩ := h.search_absent hs
  rw [he, removeRun_append_of_lt hlt, removeRun_of_all_gt hgt]

/-! ### Questions by element -/

/-- **The count of an element** is that of the run of its class. -/
theorem SoundIn.count_eq (h : t.SoundIn c) (e : α) :
    t.count e = countRun c.compare e t.entries := by
  unfold count countRun
  cases hs : t.search e with
  | found i =>
    obtain ⟨r, hr, hi⟩ := h.findRun_of_found hs
    rw [hr]
    exact hi
  | absent i => rw [h.findRun_of_absent hs]; rfl

/-- **An element is contained** if there is a run of its class. -/
theorem SoundIn.contains_eq (h : t.SoundIn c) (e : α) :
    t.contains e = (findRun c.compare e t.entries).isSome := by
  unfold contains
  cases hs : t.search e with
  | found i =>
    obtain ⟨r, hr, -⟩ := h.findRun_of_found hs
    rw [hr]
    rfl
  | absent i => rw [h.findRun_of_absent hs]; rfl

end Columns

end SortedMultiset
