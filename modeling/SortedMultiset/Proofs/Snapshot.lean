import SortedMultiset.Bag.Collect
import SortedMultiset.Declaration
import SortedMultiset.Proofs.Bag.Verify

/-!
# Snapshots of foreign sources

`Bag.ofSorted` takes over whatever a source lists and whatever size it states, so long as that size is
not zero (`Bag.stores_of_ofSorted`).  Nothing is checked on the way, and the bag may break every promise
but that its columns have one length.  `Bag.verify` finds out afterwards.

Which promise it names is said by `Breaks`, a relation on the listed runs and the stated size with no
columns in it: each promise is looked at only if those before it are kept, and of neighbours that do not
ascend the first pair counts.  The check names exactly that one (`Bag.verify_eq_error_iff`), and it
passes exactly when all promises are kept, for all pairs of elements and not only for neighbours
(`Bag.verify_ofSorted`).
-/

namespace SortedMultiset

variable {α β : Type} {cmp : α → α → Ordering} {xs : List α} {rs : List (α × Nat)} {size : Nat}

/-! ### The first descent -/

theorem head?_append_cons (pre post : List α) (a : α) :
    (pre ++ a :: post).head? = (pre ++ [a]).head? := by
  cases pre <;> rfl

theorem firstDescent_cons_of_lt {a : α} (h : ∀ b ∈ xs.head?, cmp a b = .lt) :
    firstDescent cmp (a :: xs) = firstDescent cmp xs := by
  cases xs with
  | nil => rfl
  | cons b xs => rw [firstDescent, if_pos (h b rfl)]

/-- Neighbours that ascend are passed by. -/
theorem firstDescent_append {pre post : List α} {a b : α}
    (hchain : (pre ++ [a]).IsChain fun a b => cmp a b = .lt) (hab : cmp a b ≠ .lt) :
    firstDescent cmp (pre ++ a :: b :: post) = some (cmp a b) := by
  induction pre with
  | nil => exact if_neg hab
  | cons x pre ih =>
    rw [List.cons_append, List.isChain_cons, ← head?_append_cons pre (b :: post) a] at hchain
    rw [List.cons_append, firstDescent_cons_of_lt hchain.1]
    exact ih hchain.2

/-- **The first descent**: up to its first element all neighbours ascend. -/
theorem firstDescent_eq_some_iff {found : Ordering} :
    firstDescent cmp xs = some found ↔
      ∃ pre a b post, xs = pre ++ a :: b :: post ∧ ((pre ++ [a]).IsChain fun a b => cmp a b = .lt) ∧
        cmp a b ≠ .lt ∧ found = cmp a b := by
  constructor
  · intro h
    fun_induction firstDescent cmp xs with
    | case1 x y rest hxy ih =>
      obtain ⟨pre, a, b, post, heq, hchain, hab, hfound⟩ := ih h
      refine ⟨x :: pre, a, b, post, congrArg (x :: ·) heq, ?_, hab, hfound⟩
      rw [List.cons_append, List.isChain_cons, ← head?_append_cons pre (b :: post) a, ← heq]
      refine ⟨?_, hchain⟩
      rintro _ ⟨⟩
      exact hxy
    | case2 x y rest hxy =>
      exact ⟨[], x, y, rest, rfl, .singleton x, hxy, (Option.some.inj h).symm⟩
    | case3 => cases h
  · rintro ⟨pre, a, b, post, rfl, hchain, hab, rfl⟩
    exact firstDescent_append hchain hab

/-! ### Which promise is broken first -/

/-- The first promise that runs with a stated size break. -/
inductive Breaks (cmp : α → α → Ordering) (rs : List (α × Nat)) (size : Nat) : Violation → Prop
  /-- Some run is empty. -/
  | zeroCount {r : α × Nat} : r ∈ rs → r.2 = 0 → Breaks cmp rs size .zeroCount
  /-- No run is empty, but the total is not the stated size. -/
  | total : (∀ r ∈ rs, 0 < r.2) → total rs ≠ size → Breaks cmp rs size (.total (total rs) size)
  /-- No run is empty and the total is right, but two neighbours do not ascend, while all before
  them do. -/
  | order {pre post : List α} {a b : α} :
    (∀ r ∈ rs, 0 < r.2) → SortedMultiset.total rs = size → rs.map Prod.fst = pre ++ a :: b :: post →
      ((pre ++ [a]).IsChain fun a b => cmp a b = .lt) → cmp a b ≠ .lt →
        Breaks cmp rs size (.order (cmp a b))

namespace Bag

variable {b : Bag α}

theorem any_eq_zero_iff (h : b.counts.size = b.elements.size) :
    b.counts.any (· == 0) = true ↔ ∃ r ∈ b.entries, r.2 = 0 := by
  rw [Array.any_eq_true']
  constructor
  · rintro ⟨n, hn, h0⟩
    have hmem : n ∈ b.entries.map Prod.snd := by
      rw [Columns.map_snd_entries h]
      simpa using hn
    obtain ⟨r, hr, rfl⟩ := List.mem_map.mp hmem
    exact ⟨r, hr, by simpa using h0⟩
  · rintro ⟨r, hr, h0⟩
    have hmem : r.2 ∈ b.entries.map Prod.snd := List.mem_map_of_mem hr
    rw [Columns.map_snd_entries h] at hmem
    exact ⟨r.2, by simpa using hmem, by simpa using h0⟩

/-- **The check names the first promise that is broken.** -/
theorem verify_eq_error_iff (h : b.counts.size = b.elements.size) {v : Violation} :
    b.verify = .error v ↔ Breaks b.comparator.compare b.entries b.size v := by
  have htotal : sumCounts b.counts.toList = total b.entries := by
    rw [total, Columns.map_snd_entries h]
  have hzero := any_eq_zero_iff h
  have hpos : ¬ b.counts.any (· == 0) = true → ∀ r ∈ b.entries, 0 < r.2 := fun hany r hr =>
    Nat.pos_of_ne_zero fun h0 => hany (hzero.mpr ⟨r, hr, h0⟩)
  unfold verify
  rw [if_neg (not_not.mpr h.symm), htotal, ← Columns.map_fst_entries h]
  split_ifs with hany hsum
  · obtain ⟨r, hr, h0⟩ := hzero.mp hany
    constructor
    · rintro ⟨⟩
      exact .zeroCount hr h0
    · rintro (⟨-, -⟩ | ⟨hpos, -⟩ | ⟨hpos, -, -, -, -⟩)
      · rfl
      · exact absurd h0 (Nat.ne_of_gt (hpos r hr))
      · exact absurd h0 (Nat.ne_of_gt (hpos r hr))
  · constructor
    · rintro ⟨⟩
      exact .total (hpos hany) hsum
    · rintro (⟨hr, h0⟩ | ⟨-, -⟩ | ⟨-, hsize, -, -, -⟩)
      · exact absurd h0 (Nat.ne_of_gt (hpos hany _ hr))
      · rfl
      · exact absurd hsize hsum
  · have hsize := not_not.mp hsum
    constructor
    · intro hv
      cases hd : firstDescent b.comparator.compare (b.entries.map Prod.fst) with
      | none => rw [hd] at hv; cases hv
      | some found =>
        rw [hd] at hv
        cases hv
        obtain ⟨pre, x, y, post, heq, hchain, hxy, rfl⟩ := firstDescent_eq_some_iff.mp hd
        exact .order (hpos hany) hsize heq hchain hxy
    · rintro (⟨hr, h0⟩ | ⟨-, hne⟩ | ⟨-, -, heq, hchain, hxy⟩)
      · exact absurd h0 (Nat.ne_of_gt (hpos hany _ hr))
      · exact absurd hsize hne
      · rw [firstDescent_eq_some_iff.mpr ⟨_, _, _, _, heq, hchain, hxy, rfl⟩]

/-! ### Taking over a source -/

variable [SortedBagLike β α] {source : β}

/-- The bag holds what a source lists, in the order in which it is listed, and states what it states. -/
structure Stores (b : Bag α) (source : β) : Prop where
  elements_eq : b.elements.toList = (BagLike.entries source).map Prod.fst
  counts_eq : b.counts.toList = (BagLike.entries source).map Prod.snd
  size_eq : b.size = BagLike.size source
  comparator_eq : b.comparator = SortedBagLike.comparator source

theorem Stores.length_eq (h : b.Stores source) : b.counts.size = b.elements.size := by
  rw [← Array.length_toList, ← Array.length_toList, h.counts_eq, h.elements_eq, List.length_map,
    List.length_map]

theorem Stores.entries_eq (h : b.Stores source) : b.entries = BagLike.entries source := by
  rw [Columns.entries, h.elements_eq, h.counts_eq]
  exact (List.zip_of_prod rfl rfl).symm

theorem ofSorted_eq_error_iff {cause : Error} :
    ofSorted source = .error cause ↔
      BagLike.size source = 0 ∧ cause = .construction "source bag is empty" := by
  unfold ofSorted BagLike.isEmpty
  split_ifs with hsize
  · rw [Except.error.injEq, and_iff_right (by simpa using hsize), eq_comm]
  · exact iff_of_false (fun h => by cases h) fun h => hsize (by simpa using h.1)

/-- **A source that does not state to be empty is taken over** as it is. -/
theorem stores_of_ofSorted (hsize : BagLike.size source ≠ 0) :
    ∃ b : Bag α, ofSorted source = .ok b ∧ b.Stores source := by
  unfold ofSorted BagLike.isEmpty
  rw [if_neg (by simpa using hsize)]
  exact ⟨_, rfl, rfl, rfl, rfl, rfl⟩

/-- What is taken over is stored. -/
theorem Stores.of_ofSorted (h : ofSorted source = .ok b) : b.Stores source := by
  have hsize : BagLike.size source ≠ 0 := by
    intro hzero
    rw [ofSorted_eq_error_iff.mpr ⟨hzero, rfl⟩] at h
    cases h
  obtain ⟨b', hb', hstores⟩ := stores_of_ofSorted hsize
  obtain rfl := Except.ok.inj (h.symm.trans hb')
  exact hstores

/-- What is taken over passes the check if the source keeps all promises of a sorted multiset. -/
theorem Stores.verify_eq_ok_iff [Std.TransCmp (SortedBagLike.comparator source).compare]
    (h : b.Stores source) :
    b.verify = .ok () ↔
      (∀ r ∈ BagLike.entries source, 0 < r.2) ∧
      total (BagLike.entries source) = BagLike.size source ∧
      (BagLike.entries source).Pairwise fun r s =>
        (SortedBagLike.comparator source).compare r.1 s.1 = .lt := by
  have hlawful : Std.TransCmp b.comparator.compare := by
    rw [h.comparator_eq]
    infer_instance
  rw [Bag.verify_eq_ok_iff]
  constructor
  · intro hwf
    have hsorted := hwf.soundIn.sortedRuns
    have htotal := hwf.total_entries
    rw [h.entries_eq, h.comparator_eq] at hsorted
    rw [h.entries_eq, h.size_eq] at htotal
    exact ⟨hsorted.positive, htotal, hsorted.ascending⟩
  · rintro ⟨hpos, htotal, hascending⟩
    rw [← h.entries_eq] at hpos htotal hascending
    rw [← h.size_eq] at htotal
    exact (Columns.soundIn_iff.mpr
      ⟨h.length_eq, ⟨hascending, hpos⟩, htotal.symm, h.comparator_eq⟩).wellFormed

/-- **Whatever a source says, it is taken over or refused, and the check tells the truth about it.**  A
source is refused exactly if it states the size zero.  Any other is stored as it is.  The check passes
exactly if all listed counts are positive, they add up to the stated size, and every listed element is
less than all later ones; else it names the first promise that is broken. -/
theorem verify_ofSorted (source : β) [Std.TransCmp (SortedBagLike.comparator source).compare] :
    (ofSorted source = .error (.construction "source bag is empty") ↔ BagLike.size source = 0) ∧
    (BagLike.size source ≠ 0 → ∃ b : Bag α, ofSorted source = .ok b ∧ b.Stores source ∧
      (b.verify = .ok () ↔
        (∀ r ∈ BagLike.entries source, 0 < r.2) ∧
        total (BagLike.entries source) = BagLike.size source ∧
        (BagLike.entries source).Pairwise fun r s =>
          (SortedBagLike.comparator source).compare r.1 s.1 = .lt) ∧
      ∀ v, b.verify = .error v ↔
        Breaks (SortedBagLike.comparator source).compare (BagLike.entries source)
          (BagLike.size source) v) := by
  refine ⟨ofSorted_eq_error_iff.trans (and_iff_left rfl), fun hsize => ?_⟩
  obtain ⟨b, hb, hstores⟩ := stores_of_ofSorted hsize
  refine ⟨b, hb, hstores, hstores.verify_eq_ok_iff, fun v => ?_⟩
  rw [verify_eq_error_iff hstores.length_eq, hstores.entries_eq, hstores.size_eq,
    hstores.comparator_eq]

/-- A source that lists 25 twice and then 31 before 12, where the first pair is blamed, and one that lists
31 before 12 and has an empty run and a wrong size as well, where the empty run is. -/
theorem verify_ofSorted_declared :
    let unsorted : Declaration Nat := ⟨[(12, 1), (25, 2), (25, 1), (31, 1), (12, 2)], 7, .natural 0⟩
    let broken : Declaration Nat := ⟨[(31, 1), (12, 0)], 5, .natural 0⟩
    ofSorted (⟨[(12, 2)], 0, .natural 0⟩ : Declaration Nat) =
        .error (.construction "source bag is empty") ∧
      (∃ b : Bag Nat, ofSorted unsorted = .ok b ∧ b.verify = .error (.order .eq)) ∧
      ∃ b : Bag Nat, ofSorted broken = .ok b ∧ b.verify = .error .zeroCount := by
  intro unsorted broken
  have hnatural : Std.TransCmp (Comparator.natural 0 : Comparator Nat).compare := inferInstance
  have hunsorted : Std.TransCmp (SortedBagLike.comparator unsorted).compare := hnatural
  have hbroken : Std.TransCmp (SortedBagLike.comparator broken).compare := hnatural
  have hempty : Std.TransCmp
      (SortedBagLike.comparator (⟨[(12, 2)], 0, .natural 0⟩ : Declaration Nat)).compare := hnatural
  obtain ⟨b, hb, -, -, hnames⟩ := (verify_ofSorted unsorted).2 (by decide)
  obtain ⟨d, hd, -, -, hnames'⟩ := (verify_ofSorted broken).2 (by decide)
  refine ⟨(verify_ofSorted (⟨[(12, 2)], 0, .natural 0⟩ : Declaration Nat)).1.mpr rfl,
    ⟨b, hb, (hnames _).mpr ?_⟩, d, hd, (hnames' _).mpr ?_⟩
  · have hsplit : (BagLike.entries unsorted).map Prod.fst = [12] ++ 25 :: 25 :: [31, 12] := rfl
    exact .order (by decide) rfl hsplit (by decide) (by decide)
  · exact .zeroCount (r := (12, 0)) (by decide) rfl

end Bag

end SortedMultiset
