import SortedMultiset.Bag.Compare
import SortedMultiset.Builder
import SortedMultiset.Proofs.Cursor

/-!
# The order of bags

A bag is compared with a sorted multiset by walking along a cursor over the bag and the elements that the
other lists, in step, until two of them differ or one side ends (`Cursor.compareAlong`).  Whatever the
cursor yields, that is the lexicographic comparison of it with the sequence on the other side
(`Cursor.Yields.compareAlong_eq`).  The cursor over a bag yields its sequence, so long as no run is empty
and the size is that of the runs; an order of the elements is not needed.  For such a bag the walk comes to
the same as `compareRuns`, which takes whole runs at a time.

A lexicographic comparison by a total preorder is a total preorder again, so bags in one order are
ordered themselves (`Bag.compareTo_lexicographic`).  Runs play no part in that: those of three bags need
not be aligned anywhere.
-/

namespace SortedMultiset

variable {α β κ : Type} {cmp : α → α → Ordering}

/-- **Comparing along a cursor** is the lexicographic comparison of the list that it yields with the
sequence that the runs stand for. -/
theorem Cursor.Yields.compareAlong_eq [Cursor κ α] {c : κ} {xs : List α} (h : Yields c xs)
    (runs : List (α × Nat)) :
    compareAlong cmp c runs = List.compareLex cmp xs (expand runs) := by
  -- by the recursion of the walk, which goes on with what is left of the first run
  fun_induction compareAlong cmp c runs generalizing xs with
  | case1 c hmore =>
    obtain ⟨_, hnext⟩ := Option.isSome_iff_exists.mp hmore
    obtain ⟨rest, rfl, -⟩ := h.of_some hnext
    exact List.compareLex_cons_nil.symm
  | case2 c hmore =>
    obtain rfl := h.of_none (Option.not_isSome_iff_eq_none.mp hmore)
    exact List.compareLex_nil_nil.symm
  | case3 c y runs ih => exact ih h
  | case4 c y n runs hnext =>
    obtain rfl := h.of_none hnext
    exact List.compareLex_nil_cons.symm
  | case5 c y n runs x c' hnext hxy ih =>
    obtain ⟨rest, rfl, hrest⟩ := h.of_some hnext
    rw [ih hrest, expand_cons, expand_cons, List.replicate_succ, List.cons_append,
      List.compareLex_cons_cons, hxy]
    rfl
  | case6 c y n runs x c' hnext hxy =>
    obtain ⟨rest, rfl, -⟩ := h.of_some hnext
    rw [expand_cons, List.replicate_succ, List.cons_append, List.compareLex_cons_cons]
    cases hcmp : cmp x y with
    | lt => rfl
    | eq => exact absurd hcmp hxy
    | gt => rfl

namespace Bag

variable [SortedBagLike β α] {a : Bag α} {c : Comparator α}

/-- Walking along a bag is comparing its sequence. -/
theorem compareTo_eq_compareLex (h : a.Tallied) (other : β) :
    a.compareTo other =
      List.compareLex a.comparator.compare a.toList (expand (BagLike.entries other)) :=
  (ElementCursor.yields_start h).compareAlong_eq _

/-- Walking along a bag is comparing its runs. -/
theorem compareTo_eq_compareRuns (h : a.Tallied) (other : β) :
    a.compareTo other = compareRuns a.comparator.compare a.entries (BagLike.entries other) := by
  rw [compareTo_eq_compareLex h, compareRuns_eq_compareLex]
  rfl

/-- The walk sees the element of an empty run, the runs do not. -/
example :
    let b : Bag Nat := ⟨⟨#[1, 2, 3], #[1, 0, 1], .natural 0, 2⟩⟩
    b.compareTo b = .lt ∧ compareRuns b.comparator.compare b.entries b.entries = .eq := by
  decide +kernel

/-- Among the bags in one order, all comparisons are made by that order. -/
theorem compareTo_of_comparator (ha : a.comparator = c) (h : a.Tallied) (b : Bag α) :
    a.compareTo b = List.compareLex c.compare a.toList b.toList := by
  rw [← ha]
  exact compareTo_eq_compareLex h b

/-- **Bags are ordered lexicographically.**  A bag compares to any sorted multiset, whatever its form and
its own order, as the sequence of its elements does to the sequence that the other lists; taking whole
runs at a time comes to the same.  Among the bags in one order this is a total preorder: every bag is equal
to itself, the sides can be exchanged, and from two comparisons in a row the third follows, strictly if one
of the two is strict.  Of a bag that is walked along only the tally has to be right, as it is for every
well-formed one (`Columns.WellFormed.tallied`). -/
theorem compareTo_lexicographic [Std.TransCmp c.compare] :
    (∀ {β : Type} [SortedBagLike β α] (a : Bag α) (other : β), a.Tallied →
      a.compareTo other =
          List.compareLex a.comparator.compare a.toList (expand (BagLike.entries other)) ∧
        a.compareTo other = compareRuns a.comparator.compare a.entries (BagLike.entries other)) ∧
    (∀ a : Bag α, a.Tallied → a.comparator = c → a.compareTo a = .eq) ∧
    (∀ a b : Bag α, a.Tallied → b.Tallied → a.comparator = c → b.comparator = c →
      a.compareTo b = (b.compareTo a).swap) ∧
    ∀ a b d : Bag α, a.Tallied → b.Tallied →
      a.comparator = c → b.comparator = c → d.comparator = c →
      (a.compareTo b).isLE → (b.compareTo d).isLE →
        (a.compareTo d).isLE ∧
          (a.compareTo b = .lt ∨ b.compareTo d = .lt → a.compareTo d = .lt) := by
  refine ⟨fun a other hta => ?_, fun a hta ha => ?_, fun a b hta htb ha hb => ?_,
    fun a b d hta htb ha hb _ hab hbd => ?_⟩
  · exact ⟨compareTo_eq_compareLex hta other, compareTo_eq_compareRuns hta other⟩
  · rw [compareTo_of_comparator ha hta]
    exact Std.ReflCmp.compare_self
  · rw [compareTo_of_comparator ha hta, compareTo_of_comparator hb htb]
    exact Std.OrientedCmp.eq_swap
  · rw [compareTo_of_comparator ha hta] at hab ⊢
    rw [compareTo_of_comparator hb htb] at hbd ⊢
    rw [compareTo_of_comparator ha hta]
    refine ⟨Std.TransCmp.isLE_trans hab hbd, ?_⟩
    rintro (hlt | hlt)
    · exact Std.TransCmp.lt_of_lt_of_isLE hlt hbd
    · exact Std.TransCmp.lt_of_isLE_of_lt hab hlt

/-- Numbers by tens in runs that are nowhere aligned, and a builder in the opposite order, which lists its
greatest element first. -/
theorem compareTo_lexicographic_byTens :
    let c : Comparator Nat := .byKey 0 (· / 10)
    let a : Bag Nat := ⟨⟨#[17], #[3], c, 3⟩⟩
    let b : Bag Nat := ⟨⟨#[12, 25], #[2, 1], c, 3⟩⟩
    let d : Bag Nat := ⟨⟨#[19, 21], #[1, 2], c, 3⟩⟩
    let builder : Builder Nat := ⟨⟨#[25, 12], #[1, 2], c.reversed 1, 3⟩⟩
    a.WellFormed ∧ b.WellFormed ∧
      b.compareTo builder = List.compareLex c.compare [12, 12, 25] [25, 12, 12] ∧
      b.compareTo b = .eq ∧ a.compareTo b = (b.compareTo a).swap ∧ a.compareTo b = .lt ∧
      b.compareTo d = .lt ∧ a.compareTo d = .lt := by
  intro c a b d builder
  have ha : a.WellFormed := by decide
  have hb : b.WellFormed := by decide
  have hab : a.compareTo b = .lt := by decide +kernel
  have hbd : b.compareTo d = .lt := by decide +kernel
  obtain ⟨hsequences, hself, hswap, htrans⟩ := compareTo_lexicographic (c := c)
  have had := htrans a b d ha.tallied hb.tallied rfl rfl rfl (by rw [hab]; rfl) (by rw [hbd]; rfl)
  exact ⟨ha, hb, (hsequences b builder hb.tallied).1, hself b hb.tallied rfl,
    hswap a b ha.tallied hb.tallied rfl rfl, hab, hbd, had.2 (Or.inl hab)⟩

end Bag

end SortedMultiset
