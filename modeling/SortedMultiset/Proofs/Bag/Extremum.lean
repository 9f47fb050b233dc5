import SortedMultiset.Bag.Extremum
import SortedMultiset.Bag.Scan
import SortedMultiset.Proofs.Bag.Access
import SortedMultiset.Proofs.Runs.Reverse

/-!
# Least and greatest elements in any order

An order may have several least and several greatest elements, and one that has nothing to do with the
comparator of a bag has them anywhere in its columns.  Both searches go through the elements once and hold
one of them.  A least element is given up for a lesser one only, a greatest for any that is not less, and
so the first least and the last greatest remain (`leastBy?_eq_some_iff`, `greatestBy?_eq_some_iff`).  Of
both ways to give up an element it is true that what takes the place of the element that is held would
have taken the place of all those that did not, and this is all that the fold needs (`foldl_hold`).

In the order of the bag the elements ascend strictly, hence the first is the only least one and the last
the only greatest (`extreme_lt_iff`, `extreme_gt_iff`); in the opposite order it is the other way round.

* `Bag.extremes_in_any_order`: what is found, how ties are broken, and what is refused of an empty bag.
-/

namespace SortedMultiset

variable {α κ : Type} {cmp : α → α → Ordering} {o : Ordering} {xs pre post : List α} {x y : α}
  {k k' : Nat}

/-! ### Holding one element of a list -/

/-- **The element that is held in the end** displaces all before it and is displaced by none behind it. -/
theorem foldl_hold (displaced : α → α → Prop) [DecidableRel displaced]
    (htrans : ∀ {a b c}, displaced a b → displaced b c → displaced a c)
    (hheld : ∀ {a b c}, ¬displaced a b → displaced a c → displaced b c) (a : α) (as : List α) :
    ∃ pre m post, as.foldl (fun held x => if displaced held x then x else held) a = m ∧
      a :: as = pre ++ m :: post ∧ (∀ y ∈ pre, displaced y m) ∧ ∀ y ∈ post, ¬displaced m y := by
  -- on the elements to come: the next one displaces what is held, or is passed by with it
  induction as generalizing a with
  | nil => exact ⟨[], a, [], rfl, rfl, by simp, by simp⟩
  | cons x as ih =>
    rw [List.foldl_cons]
    by_cases hx : displaced a x
    · rw [if_pos hx]
      obtain ⟨pre, m, post, hm, hsplit, hpre, hpost⟩ := ih x
      have ham : displaced a m := by
        cases pre with
        | nil =>
          obtain ⟨rfl, -⟩ := List.cons.inj hsplit
          exact hx
        | cons z pre =>
          obtain ⟨rfl, -⟩ := List.cons.inj hsplit
          exact htrans hx (hpre x List.mem_cons_self)
      exact ⟨a :: pre, m, post, hm, by rw [hsplit, List.cons_append],
        List.forall_mem_cons.mpr ⟨ham, hpre⟩, hpost⟩
    · rw [if_neg hx]
      obtain ⟨pre, m, post, hm, hsplit, hpre, hpost⟩ := ih a
      cases pre with
      | nil =>
        obtain ⟨rfl, rfl⟩ := List.cons.inj hsplit
        exact ⟨[], a, x :: as, hm, rfl, by simp, List.forall_mem_cons.mpr ⟨hx, hpost⟩⟩
      | cons z pre =>
        obtain ⟨rfl, rfl⟩ := List.cons.inj hsplit
        obtain ⟨ham, hrest⟩ := List.forall_mem_cons.mp hpre
        have hxm : displaced x m := hheld hx ham
        exact ⟨a :: x :: pre, m, post, hm, rfl,
          List.forall_mem_cons.mpr ⟨ham, List.forall_mem_cons.mpr ⟨hxm, hrest⟩⟩, hpost⟩

/-! ### Extreme elements -/

/-- No element of a list compares to `x` as `o` says: with `Ordering.lt`, `x` is a least one, with
`Ordering.gt` a greatest. -/
def Extreme (cmp : α → α → Ordering) (o : Ordering) (xs : List α) (x : α) : Prop :=
  ∀ y ∈ xs, cmp y x ≠ o

/-- Slot `k` holds the extreme element `x`, and no slot that is `preferred` to it holds one. -/
structure ExtremeAt (cmp : α → α → Ordering) (o : Ordering) (preferred : Nat → Nat → Prop)
    (xs : List α) (k : Nat) (x : α) : Prop where
  here : xs[k]? = some x
  extreme : Extreme cmp o xs x
  not_extreme : ∀ i, preferred i k → ∀ y, xs[i]? = some y → ¬Extreme cmp o xs y

/-- The first slot that holds a least element. -/
abbrev FirstLeast (cmp : α → α → Ordering) : List α → Nat → α → Prop := ExtremeAt cmp .lt (· < ·)

/-- The last slot that holds a greatest element. -/
abbrev LastGreatest (cmp : α → α → Ordering) : List α → Nat → α → Prop := ExtremeAt cmp .gt (· > ·)

/-- There is at most one slot to choose. -/
theorem ExtremeAt.unique {preferred : Nat → Nat → Prop} [Std.Trichotomous preferred]
    (h : ExtremeAt cmp o preferred xs k x) (h' : ExtremeAt cmp o preferred xs k' y) :
    k = k' ∧ x = y := by
  have hk : k = k' := Std.Trichotomous.trichotomous (r := preferred) k k'
    (fun hkk' => h'.not_extreme k hkk' x h.here h.extreme)
    (fun hk'k => h.not_extreme k' hk'k y h'.here h'.extreme)
  subst hk
  exact ⟨rfl, Option.some.inj (h.here.symm.trans h'.here)⟩

theorem ExtremeAt.eq_iff {preferred : Nat → Nat → Prop} [Std.Trichotomous preferred]
    (h : ExtremeAt cmp o preferred xs k x) : x = y ↔ ∃ k', ExtremeAt cmp o preferred xs k' y := by
  constructor
  · rintro rfl
    exact ⟨k, h⟩
  · rintro ⟨k', h'⟩
    exact (h.unique h').2

theorem not_extremeAt_nil {preferred : Nat → Nat → Prop} : ¬ExtremeAt cmp o preferred [] k x :=
  fun h => by simpa using h.here

/-- If only one slot holds an extreme element, there is nothing to choose. -/
theorem extremeAt_of_only {preferred : Nat → Nat → Prop} [Std.Irrefl preferred] (hx : xs[k]? = some x)
    (honly : ∀ i y, xs[i]? = some y → (Extreme cmp o xs y ↔ i = k)) :
    ExtremeAt cmp o preferred xs k x := by
  refine ⟨hx, (honly k x hx).mpr rfl, fun i hik y hy hextreme => ?_⟩
  obtain rfl := (honly i y hy).mp hextreme
  exact Std.Irrefl.irrefl i hik

theorem extreme_opposite [Std.OrientedCmp cmp] :
    Extreme (fun a b => cmp b a) o xs x ↔ Extreme cmp o.swap xs x := by
  refine forall₂_congr fun y _ => not_congr ?_
  have hswap : cmp y x = (cmp x y).swap := Std.OrientedCmp.eq_swap
  rw [hswap, Ordering.swap_inj]

theorem extreme_append_cons [Std.ReflCmp cmp] (ho : o ≠ .eq) (hpre : ∀ y ∈ pre, cmp y x ≠ o)
    (hpost : ∀ y ∈ post, cmp y x ≠ o) : Extreme cmp o (pre ++ x :: post) x := by
  intro y hy
  rcases List.mem_append.mp hy with hy | hy
  · exact hpre y hy
  rcases List.mem_cons.mp hy with rfl | hy
  · have hself : cmp y y = .eq := Std.ReflCmp.compare_self
    rw [hself]
    exact ho.symm
  · exact hpost y hy

/-! ### The searches -/

section Searches

variable [Std.TransCmp cmp]

/-- **A least element** is found in every list that is not empty: the first of them. -/
theorem exists_leastBy? (cmp : α → α → Ordering) [Std.TransCmp cmp] (a : α) (as : List α) :
    ∃ k m, leastBy? cmp (a :: as) = some m ∧ FirstLeast cmp (a :: as) k m := by
  obtain ⟨pre, m, post, hm, hsplit, hpre, hpost⟩ :=
    foldl_hold (fun a b => cmp a b = .gt) Std.TransCmp.gt_trans
      (fun hab hac => Std.TransCmp.gt_of_isGE_of_gt
        (Std.OrientedCmp.isGE_of_isLE (Ordering.isLE_iff_ne_gt.mpr hab)) hac) a as
  refine ⟨pre.length, m, congrArg some hm, ?_⟩
  rw [hsplit]
  refine ⟨by simp, ?_, fun i hi y hy hleast => ?_⟩
  · refine extreme_append_cons Ordering.noConfusion (fun y hy => ?_) fun y hy hlt => ?_
    · rw [hpre y hy]
      exact Ordering.noConfusion
    · exact hpost y hy (Std.OrientedCmp.gt_of_lt hlt)
  · rw [List.getElem?_append_left hi] at hy
    have hgt : cmp y m = .gt := hpre y (List.mem_of_getElem? hy)
    exact hleast m (by simp) (Std.OrientedCmp.lt_of_gt hgt)

/-- **A greatest element** is found in every list that is not empty: the last of them. -/
theorem exists_greatestBy? (cmp : α → α → Ordering) [Std.TransCmp cmp] (a : α) (as : List α) :
    ∃ k m, greatestBy? cmp (a :: as) = some m ∧ LastGreatest cmp (a :: as) k m := by
  obtain ⟨pre, m, post, hm, hsplit, hpre, hpost⟩ :=
    -- its first branch keeps what is held, so the displacing one is the other
    foldl_hold (fun a b => cmp a b ≠ .gt)
      (fun hab hbc => Ordering.isLE_iff_ne_gt.mp (Std.TransCmp.isLE_trans
        (Ordering.isLE_iff_ne_gt.mpr hab) (Ordering.isLE_iff_ne_gt.mpr hbc)))
      (fun hab hac hbc => hac (Std.TransCmp.gt_trans (not_not.mp hab) hbc)) a as
  refine ⟨pre.length, m, ?_, ?_⟩
  · rw [← hm]
    simp only [greatestBy?, ite_not, ne_eq]
  rw [hsplit]
  refine ⟨by simp, ?_, fun i hi y hy hgreatest => ?_⟩
  · refine extreme_append_cons Ordering.noConfusion hpre fun y hy => ?_
    rw [Std.OrientedCmp.lt_of_gt (not_not.mp (hpost y hy))]
    exact Ordering.noConfusion
  · have hi : pre.length < i := hi
    rw [List.getElem?_append_right (Nat.le_of_lt hi), List.getElem?_cons,
      if_neg (Nat.sub_ne_zero_of_lt hi)] at hy
    exact hgreatest m (by simp) (not_not.mp (hpost y (List.mem_of_getElem? hy)))

theorem leastBy?_eq_some_iff : leastBy? cmp xs = some x ↔ ∃ k, FirstLeast cmp xs k x := by
  cases xs with
  | nil => simpa [leastBy?] using fun k (hk : FirstLeast cmp [] k x) => not_extremeAt_nil hk
  | cons a as =>
    obtain ⟨k, m, hm, hfirst⟩ := exists_leastBy? cmp a as
    rw [hm, Option.some.injEq, hfirst.eq_iff]

theorem greatestBy?_eq_some_iff : greatestBy? cmp xs = some x ↔ ∃ k, LastGreatest cmp xs k x := by
  cases xs with
  | nil => simpa [greatestBy?] using fun k (hk : LastGreatest cmp [] k x) => not_extremeAt_nil hk
  | cons a as =>
    obtain ⟨k, m, hm, hlast⟩ := exists_greatestBy? cmp a as
    rw [hm, Option.some.injEq, hlast.eq_iff]

end Searches

/-! ### Ascending lists -/

section Ascending

variable [Std.OrientedCmp cmp]

/-- **Elements of an ascending list** compare as their slots do. -/
theorem compare_eq_compare_slots (hasc : xs.Pairwise fun a b => cmp a b = .lt) {i : Nat}
    (hy : xs[i]? = some y) (hx : xs[k]? = some x) : cmp y x = compare i k := by
  obtain ⟨hi, rfl⟩ := List.getElem?_eq_some_iff.mp hy
  obtain ⟨hk, rfl⟩ := List.getElem?_eq_some_iff.mp hx
  rw [List.pairwise_iff_getElem] at hasc
  rcases Nat.lt_trichotomy i k with hlt | rfl | hlt
  · rw [hasc i k hi hk hlt, Nat.compare_eq_lt.mpr hlt]
  · exact Std.ReflCmp.compare_self.trans (Nat.compare_eq_eq.mpr rfl).symm
  · rw [Std.OrientedCmp.gt_of_lt (hasc k i hk hi hlt), Nat.compare_eq_gt.mpr hlt]

theorem extreme_iff_slots (hasc : xs.Pairwise fun a b => cmp a b = .lt) (hx : xs[k]? = some x) :
    Extreme cmp o xs x ↔ ∀ i < xs.length, compare i k ≠ o := by
  constructor
  · intro h i hi
    rw [← compare_eq_compare_slots hasc (List.getElem?_eq_getElem hi) hx]
    exact h xs[i] (List.getElem_mem hi)
  · intro h y hy
    obtain ⟨i, hi, rfl⟩ := List.mem_iff_getElem.mp hy
    rw [compare_eq_compare_slots hasc (List.getElem?_eq_getElem hi) hx]
    exact h i hi

/-- Only the first element of an ascending list is a least one. -/
theorem extreme_lt_iff (hasc : xs.Pairwise fun a b => cmp a b = .lt) (hx : xs[k]? = some x) :
    Extreme cmp .lt xs x ↔ k = 0 := by
  have hk : k < xs.length := (List.getElem?_eq_some_iff.mp hx).1
  simp only [extreme_iff_slots hasc hx, ne_eq, Nat.compare_eq_lt]
  constructor
  · intro h
    have hfirst := h 0 (by omega)
    omega
  · intro h i hi
    omega

/-- Only the last element of an ascending list is a greatest one. -/
theorem extreme_gt_iff (hasc : xs.Pairwise fun a b => cmp a b = .lt) (hx : xs[k]? = some x) :
    Extreme cmp .gt xs x ↔ k = xs.length - 1 := by
  have hk : k < xs.length := (List.getElem?_eq_some_iff.mp hx).1
  simp only [extreme_iff_slots hasc hx, ne_eq, Nat.compare_eq_gt]
  constructor
  · intro h
    have hlast := h (xs.length - 1) (by omega)
    omega
  · intro h i hi
    omega

end Ascending

/-! ### The ends of the expanded sequence -/

theorem head?_expand {rs : List (α × Nat)} (hpos : ∀ r ∈ rs, 0 < r.2) :
    (expand rs).head? = (rs.map Prod.fst).head? := by
  cases rs with
  | nil => rfl
  | cons r rs =>
    have hr : r.2 ≠ 0 := Nat.ne_of_gt (hpos r List.mem_cons_self)
    rw [expand_cons, List.head?_append, List.head?_replicate, if_neg hr]
    rfl

theorem getLast?_expand {rs : List (α × Nat)} (hpos : ∀ r ∈ rs, 0 < r.2) :
    (expand rs).getLast? = (rs.map Prod.fst).getLast? := by
  rw [← List.head?_reverse, ← expand_reverse,
    head?_expand fun r hr => hpos r (List.mem_reverse.mp hr), List.map_reverse, List.head?_reverse]

namespace Bag

variable {b : Bag α} {operation : String} {found : Option α}

/-! ### Answers and refusals -/

/-- An operation is refused exactly of the empty bag, and the cause names it. -/
def RefusedIfEmpty (b : Bag α) (operation : String) (answer : Except Error α) : Prop :=
  ∀ cause, answer = .error cause ↔ b.isEmpty = true ∧ cause = .emptyState operation

theorem orEmpty_eq_ok_iff : orEmpty operation found = .ok x ↔ found = some x := by
  cases found <;> simp [orEmpty]

theorem refusedIfEmpty_orEmpty (h : found = none ↔ b.isEmpty = true) :
    b.RefusedIfEmpty operation (orEmpty operation found) := by
  intro cause
  rw [← h]
  cases found <;> simp [orEmpty, eq_comm]

theorem isEmpty_iff : b.isEmpty = true ↔ b.distinctElements = [] := by
  simp [Bag.isEmpty, distinctElements]

theorem getElem?_zero_eq_none_iff : b.elements[0]? = none ↔ b.isEmpty = true := by
  simp [Bag.isEmpty]

theorem back?_eq_none_iff : b.elements.back? = none ↔ b.isEmpty = true := by
  simp [Bag.isEmpty]

theorem leastBy?_eq_none_iff : leastBy? cmp b.distinctElements = none ↔ b.isEmpty = true := by
  rw [isEmpty_iff]
  cases b.distinctElements <;> simp [leastBy?]

theorem greatestBy?_eq_none_iff : greatestBy? cmp b.distinctElements = none ↔ b.isEmpty = true := by
  rw [isEmpty_iff]
  cases b.distinctElements <;> simp [greatestBy?]

/-- What is there is answered alike under any name. -/
theorem orEmpty_congr {other : String} (h : found ≠ none) :
    orEmpty operation found = orEmpty other found := by
  obtain ⟨x, rfl⟩ := Option.ne_none_iff_exists'.mp h
  rfl

/-- **The least element in an order** is the first of the least ones. -/
theorem minBy_eq_ok_iff [Std.TransCmp cmp] :
    b.minBy cmp = .ok x ↔ ∃ k, FirstLeast cmp b.distinctElements k x :=
  orEmpty_eq_ok_iff.trans leastBy?_eq_some_iff

/-- **The greatest element in an order** is the last of the greatest ones. -/
theorem maxBy_eq_ok_iff [Std.TransCmp cmp] :
    b.maxBy cmp = .ok x ↔ ∃ k, LastGreatest cmp b.distinctElements k x :=
  orEmpty_eq_ok_iff.trans greatestBy?_eq_some_iff

section NotEmpty

variable (hne : b.isEmpty = false)
include hne

theorem leastBy?_ne_none : leastBy? cmp b.distinctElements ≠ none := fun hnone =>
  Bool.noConfusion (hne.symm.trans (leastBy?_eq_none_iff.mp hnone))

theorem greatestBy?_ne_none : greatestBy? cmp b.distinctElements ≠ none := fun hnone =>
  Bool.noConfusion (hne.symm.trans (greatestBy?_eq_none_iff.mp hnone))

theorem exists_minBy [Std.TransCmp cmp] :
    ∃ k x, b.minBy cmp = .ok x ∧ FirstLeast cmp b.distinctElements k x := by
  obtain ⟨x, hx⟩ := Option.ne_none_iff_exists'.mp (leastBy?_ne_none hne)
  have hfirst : ∃ k, FirstLeast cmp b.distinctElements k x := leastBy?_eq_some_iff.mp hx
  obtain ⟨k, hk⟩ := hfirst
  exact ⟨k, x, minBy_eq_ok_iff.mpr ⟨k, hk⟩, hk⟩

theorem exists_maxBy [Std.TransCmp cmp] :
    ∃ k x, b.maxBy cmp = .ok x ∧ LastGreatest cmp b.distinctElements k x := by
  obtain ⟨x, hx⟩ := Option.ne_none_iff_exists'.mp (greatestBy?_ne_none hne)
  have hlast : ∃ k, LastGreatest cmp b.distinctElements k x := greatestBy?_eq_some_iff.mp hx
  obtain ⟨k, hk⟩ := hlast
  exact ⟨k, x, maxBy_eq_ok_iff.mpr ⟨k, hk⟩, hk⟩

end NotEmpty

/-! ### The ends of a bag -/

/-- All who ask for the lower end of a bag are given `x`. -/
structure LowerEnd (b : Bag α) (x : α) : Prop where
  first_eq : b.first = .ok x
  min_eq : b.min = .ok x
  get_eq : b.get 0 = .ok x
  minBy_eq : b.minBy b.comparator.compare = .ok x
  maxBy_reversed_eq : ∀ label, b.maxBy (b.comparator.reversed label).compare = .ok x

/-- All who ask for the upper end of a bag are given `x`. -/
structure UpperEnd (b : Bag α) (x : α) : Prop where
  last_eq : b.last = .ok x
  max_eq : b.max = .ok x
  get_eq : b.get (b.size - 1) = .ok x
  maxBy_eq : b.maxBy b.comparator.compare = .ok x
  minBy_reversed_eq : ∀ label, b.minBy (b.comparator.reversed label).compare = .ok x

section Ends

variable [Std.TransCmp b.comparator.compare] (hb : b.WellFormed)
include hb

theorem lowerEnd_of_first (hx : b.distinctElements[0]? = some x) : b.LowerEnd x := by
  have hleast : ∀ i y, b.distinctElements[i]? = some y →
      (Extreme b.comparator.compare .lt b.distinctElements y ↔ i = 0) :=
    fun i y hy => extreme_lt_iff hb.ascending hy
  have hstored : b.elements[0]? = some x := by rwa [← Array.getElem?_toList]
  refine ⟨orEmpty_eq_ok_iff.mpr hstored, orEmpty_eq_ok_iff.mpr hstored, ?_, ?_, fun label => ?_⟩
  · rw [get_eq_ok_iff hb.soundIn, ← List.head?_eq_getElem?, toList,
      head?_expand hb.soundIn.sortedRuns.positive, Columns.map_fst_entries hb.length_eq,
      List.head?_eq_getElem?]
    exact hx
  · exact minBy_eq_ok_iff.mpr ⟨0, extremeAt_of_only hx hleast⟩
  · refine maxBy_eq_ok_iff.mpr ⟨0, extremeAt_of_only hx fun i y hy => ?_⟩
    exact extreme_opposite.trans (hleast i y hy)

theorem upperEnd_of_last (hx : b.distinctElements[b.distinct - 1]? = some x) : b.UpperEnd x := by
  have hgreatest : ∀ i y, b.distinctElements[i]? = some y →
      (Extreme b.comparator.compare .gt b.distinctElements y ↔ i = b.distinct - 1) :=
    fun i y hy => extreme_gt_iff hb.ascending hy
  have hstored : b.elements.back? = some x := by
    rw [Array.back?_eq_getElem?, ← Array.getElem?_toList]
    exact hx
  refine ⟨orEmpty_eq_ok_iff.mpr hstored, orEmpty_eq_ok_iff.mpr hstored, ?_, ?_, fun label => ?_⟩
  · rw [get_eq_ok_iff hb.soundIn, ← length_toList hb, ← List.getLast?_eq_getElem?, toList,
      getLast?_expand hb.soundIn.sortedRuns.positive, Columns.map_fst_entries hb.length_eq,
      List.getLast?_eq_getElem?]
    exact hx
  · exact maxBy_eq_ok_iff.mpr ⟨_, extremeAt_of_only hx hgreatest⟩
  · refine minBy_eq_ok_iff.mpr ⟨_, extremeAt_of_only hx fun i y hy => ?_⟩
    exact extreme_opposite.trans (hgreatest i y hy)

end Ends

/-- **Extremes in any order.**  Whoever asks the empty bag for an extreme element is refused by the name
of the question, and nobody is refused of another bag.  In whatever order, the least element is the one
of the first slot that holds a least one, and the greatest that of the last slot that holds a greatest.
The order by a key is one of these orders.  In the order of the bag itself, or in the reverse of it, they
are the two ends, which all questions for them agree on. -/
theorem extremes_in_any_order [Std.TransCmp b.comparator.compare] (hb : b.WellFormed) :
    (b.RefusedIfEmpty "first" b.first ∧ b.RefusedIfEmpty "last" b.last ∧
      b.RefusedIfEmpty "min" b.min ∧ b.RefusedIfEmpty "max" b.max ∧
      (∀ cmp, b.RefusedIfEmpty "min_by" (b.minBy cmp) ∧ b.RefusedIfEmpty "max_by" (b.maxBy cmp)) ∧
      ∀ {κ : Type} [Ord κ] (key : α → κ), b.RefusedIfEmpty "min_by_key" (b.minByKey key) ∧
        b.RefusedIfEmpty "max_by_key" (b.maxByKey key)) ∧
    (b.isEmpty = false →
      (∀ cmp, Std.TransCmp cmp →
        (∃ k x, b.minBy cmp = .ok x ∧ FirstLeast cmp b.distinctElements k x) ∧
        ∃ k x, b.maxBy cmp = .ok x ∧ LastGreatest cmp b.distinctElements k x) ∧
      (∀ {κ : Type} [Ord κ] (label : Nat) (key : α → κ),
        b.minByKey key = b.minBy (Comparator.byKey label key).compare ∧
        b.maxByKey key = b.maxBy (Comparator.byKey label key).compare) ∧
      (∃ x, b.distinctElements[0]? = some x ∧ b.LowerEnd x) ∧
      ∃ x, b.distinctElements[b.distinct - 1]? = some x ∧ b.UpperEnd x) := by
  refine ⟨⟨refusedIfEmpty_orEmpty getElem?_zero_eq_none_iff, refusedIfEmpty_orEmpty back?_eq_none_iff,
    refusedIfEmpty_orEmpty getElem?_zero_eq_none_iff, refusedIfEmpty_orEmpty back?_eq_none_iff,
    fun cmp => ⟨refusedIfEmpty_orEmpty leastBy?_eq_none_iff,
      refusedIfEmpty_orEmpty greatestBy?_eq_none_iff⟩,
    fun key => ⟨refusedIfEmpty_orEmpty leastBy?_eq_none_iff,
      refusedIfEmpty_orEmpty greatestBy?_eq_none_iff⟩⟩, fun hne => ?_⟩
  have hpos : 0 < b.distinctElements.length := by
    rw [List.length_pos_iff, ne_eq, ← isEmpty_iff, hne]
    exact Bool.false_ne_true
  have hlast : b.distinct - 1 < b.distinctElements.length := Nat.sub_one_lt_of_lt hpos
  exact ⟨fun cmp _ => ⟨exists_minBy hne, exists_maxBy hne⟩,
    fun label key => ⟨orEmpty_congr (leastBy?_ne_none hne), orEmpty_congr (greatestBy?_ne_none hne)⟩,
    ⟨_, List.getElem?_eq_getElem hpos, lowerEnd_of_first hb (List.getElem?_eq_getElem hpos)⟩,
    ⟨_, List.getElem?_eq_getElem hlast, upperEnd_of_last hb (List.getElem?_eq_getElem hlast)⟩⟩

/-- Numbers by tens, asked for by their last digit: 22 and 42 are both least, 15 and 35 both greatest.  The
first of the ones and the last of the others are found, and by the tens the two ends. -/
theorem extremes_in_any_order_byTens :
    let b : Bag Nat := ⟨⟨#[15, 22, 35, 42, 53], #[2, 1, 3, 1, 2], .byKey 0 (· / 10), 9⟩⟩
    let c : Comparator Nat := .byKey 1 (· % 10)
    b.WellFormed ∧ b.minBy c.compare = .ok 22 ∧ (∃ k, FirstLeast c.compare [15, 22, 35, 42, 53] k 22) ∧
      b.maxBy c.compare = .ok 35 ∧ (∃ k, LastGreatest c.compare [15, 22, 35, 42, 53] k 35) ∧
      b.minByKey (· % 10) = .ok 22 ∧ b.LowerEnd 15 ∧ b.UpperEnd 53 ∧
      (Bag.empty c).minByKey (· % 10) = .error (.emptyState "min_by_key") := by
  intro b c
  have hb : b.WellFormed := by decide
  have hleast : b.minBy c.compare = .ok 22 := by decide +kernel
  have hgreatest : b.maxBy c.compare = .ok 35 := by decide +kernel
  have hlawful : Std.TransCmp (empty c).comparator.compare :=
    inferInstanceAs (Std.TransCmp (Comparator.byKey 1 (· % 10) : Comparator Nat).compare)
  obtain ⟨-, hfull⟩ := extremes_in_any_order hb
  obtain ⟨⟨-, -, -, -, -, hrefused⟩, -⟩ := extremes_in_any_order (wellFormed_empty c)
  obtain ⟨hsearch, hkey, ⟨x, hx, hlower⟩, ⟨y, hy, hupper⟩⟩ := hfull rfl
  obtain ⟨⟨k, m, hm, hfirst⟩, ⟨k', m', hm', hlast⟩⟩ := hsearch c.compare inferInstance
  obtain rfl : 22 = m := Except.ok.inj (hleast.symm.trans hm)
  obtain rfl : 35 = m' := Except.ok.inj (hgreatest.symm.trans hm')
  obtain rfl : 15 = x := Option.some.inj hx
  obtain rfl : 53 = y := Option.some.inj hy
  exact ⟨hb, hm, ⟨k, hfirst⟩, hm', ⟨k', hlast⟩, (hkey 1 (· % 10)).1.trans hm, hlower, hupper,
    ((hrefused (· % 10)).1 _).mpr ⟨rfl, rfl⟩⟩

end Bag

end SortedMultiset
