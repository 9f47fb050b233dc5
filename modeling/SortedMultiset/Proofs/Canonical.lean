import Mathlib.Data.List.Forall2
import SortedMultiset.Proofs.Bag.Scan
import SortedMultiset.Proofs.Bulk
import SortedMultiset.Proofs.ClassMap
import SortedMultiset.Proofs.Comparison
import SortedMultiset.Proofs.Equality

/-!
# The canonical form

A sorted sequence falls into runs in one way only.  So two lists of sorted runs whose expansions match
place by place, up to the comparator, match run by run (`SortedRuns.alike_expand_iff`), and so do two
that give every class the same count (`SortedRuns.countRun_iff`).

Sound bags in one order are therefore equal, in whatever way they are compared, exactly when their
columns match slot by slot (`Bag.SameForm`): by the lookups of `BagLike.equals`, by the walk of
`Bag.compareTo` to the first difference, and by the walk of `Bag.corresponds`.  Only the representatives of a class
may differ (`Bag.equal_iff_sameForm`).
-/

namespace SortedMultiset

variable {α : Type} {cmp : α → α → Ordering} {xs ys : List α} {r s : α × Nat}
  {rs ss : List (α × Nat)}

/-- Sequences with elements of the same classes at the same places. -/
def AlikeItems (cmp : α → α → Ordering) : List α → List α → Prop :=
  List.Forall₂ fun x y => cmp x y = .eq

/-- Runs of the same classes with the same counts. -/
def AlikeRuns (cmp : α → α → Ordering) : List (α × Nat) → List (α × Nat) → Prop :=
  List.Forall₂ fun r s => r.2 = s.2 ∧ cmp r.1 s.1 = .eq

/-! ### Sequences -/

/-- **Lexicographic comparison** finds sequences equal that match place by place. -/
theorem compareLex_eq_eq_iff : List.compareLex cmp xs ys = .eq ↔ AlikeItems cmp xs ys := by
  unfold AlikeItems
  induction xs generalizing ys with
  | nil =>
    cases ys with
    | nil => exact iff_of_true List.compareLex_nil_nil .nil
    | cons y ys => simp [List.compareLex_nil_cons]
  | cons x xs ih =>
    cases ys with
    | nil => simp [List.compareLex_cons_nil]
    | cons y ys =>
      rw [List.compareLex_cons_cons, List.forall₂_cons, ← ih]
      cases cmp x y <;> simp

theorem AlikeItems.countLike_eq [Std.TransCmp cmp] (h : AlikeItems cmp xs ys) (e : α) :
    countLike cmp xs e = countLike cmp ys e := by
  unfold AlikeItems at h
  induction h with
  | nil => rfl
  | cons hxy _ ih => rw [countLike_cons, countLike_cons, ih, Std.TransCmp.congr_left hxy]

theorem alikeItems_replicate {x y : α} (h : cmp x y = .eq) (n : Nat) :
    AlikeItems cmp (List.replicate n x) (List.replicate n y) := by
  induction n with
  | zero => exact .nil
  | succ n ih => exact .cons h ih

theorem AlikeItems.eq [Std.LawfulEqCmp cmp] (h : AlikeItems cmp xs ys) : xs = ys := by
  unfold AlikeItems at h
  simpa [Std.LawfulEqCmp.compare_eq_iff_eq] using h

/-! ### Runs -/

/-- Runs are alike if their counts are the same and their elements alike. -/
theorem alikeRuns_iff :
    AlikeRuns cmp rs ss ↔
      rs.map Prod.snd = ss.map Prod.snd ∧ AlikeItems cmp (rs.map Prod.fst) (ss.map Prod.fst) := by
  unfold AlikeRuns AlikeItems
  induction rs generalizing ss with
  | nil => cases ss <;> simp
  | cons r rs ih =>
    cases ss with
    | nil => simp
    | cons s ss =>
      rw [List.forall₂_cons, ih, List.map_cons, List.map_cons, List.cons.injEq, List.map_cons,
        List.map_cons, List.forall₂_cons]
      exact and_and_and_comm

theorem AlikeRuns.expand (h : AlikeRuns cmp rs ss) :
    AlikeItems cmp (expand rs) (expand ss) := by
  unfold AlikeRuns at h
  induction h with
  | nil => exact .nil
  | @cons r s rs ss hrs _ ih =>
    rw [expand_cons, expand_cons, hrs.1]
    exact List.rel_append (alikeItems_replicate hrs.2 s.2) ih

section SortedRuns

variable [Std.TransCmp cmp]

/-- Where no class occurs there are no runs. -/
theorem SortedRuns.eq_nil_of_countRun (h : SortedRuns cmp rs) (h0 : ∀ e, countRun cmp e rs = 0) :
    rs = [] := by
  cases rs with
  | nil => rfl
  | cons r rs =>
    have hcount := h0 r.1
    rw [countRun_cons_of_eq Std.ReflCmp.compare_self] at hcount
    exact absurd hcount (Nat.ne_of_gt h.head_pos)

/-- The first runs of two lists with the same counts are of one class: the lesser one would be missing
on the other side. -/
theorem SortedRuns.head_eq_of_countRun (hr : SortedRuns cmp (r :: rs)) (hs : SortedRuns cmp (s :: ss))
    (h : ∀ e, countRun cmp e (r :: rs) = countRun cmp e (s :: ss)) : cmp r.1 s.1 = .eq := by
  have hrself : cmp r.1 r.1 = .eq := Std.ReflCmp.compare_self
  have hsself : cmp s.1 s.1 = .eq := Std.ReflCmp.compare_self
  cases hcmp : cmp r.1 s.1 with
  | eq => rfl
  | lt =>
    have hcount := h r.1
    rw [countRun_cons_of_eq hrself, hs.countRun_cons_of_gt (Std.OrientedCmp.gt_of_lt hcmp)] at hcount
    exact absurd hcount (Nat.ne_of_gt hr.head_pos)
  | gt =>
    have hcount := h s.1
    rw [countRun_cons_of_eq hsself, hr.countRun_cons_of_gt hcmp] at hcount
    exact absurd hcount (Nat.ne_of_lt hs.head_pos)

/-- **Sorted runs with the same counts** are alike run by run. -/
theorem SortedRuns.alike_of_countRun (hr : SortedRuns cmp rs) (hs : SortedRuns cmp ss)
    (h : ∀ e, countRun cmp e rs = countRun cmp e ss) : AlikeRuns cmp rs ss := by
  induction rs generalizing ss with
  | nil =>
    obtain rfl := hs.eq_nil_of_countRun fun e => (h e).symm
    exact .nil
  | cons r rs ih =>
    cases ss with
    | nil => exact absurd (hr.eq_nil_of_countRun h) (List.cons_ne_nil r rs)
    | cons s ss =>
      have hhead := hr.head_eq_of_countRun hs h
      have hcount := h s.1
      rw [countRun_cons_of_eq hhead, countRun_cons_of_eq Std.ReflCmp.compare_self] at hcount
      refine .cons ⟨hcount, hhead⟩ (ih hr.tail hs.tail fun e => ?_)
      -- the class of the heads is gone on both sides, another one is where it was
      have hsame : cmp r.1 e = cmp s.1 e := Std.TransCmp.congr_left hhead
      by_cases he : cmp r.1 e = .eq
      · rw [hr.countRun_tail he, hs.countRun_tail (hsame.symm.trans he)]
      · have htail := h e
        rwa [countRun_cons_of_ne he, countRun_cons_of_ne (by rwa [← hsame])] at htail

/-- Sequences that are alike have as much of every class. -/
theorem SortedRuns.countRun_eq_of_alike (hr : SortedRuns cmp rs) (hs : SortedRuns cmp ss)
    (h : AlikeItems cmp (expand rs) (expand ss)) (e : α) :
    countRun cmp e rs = countRun cmp e ss := by
  rw [← countLike_expand hr, ← countLike_expand hs, h.countLike_eq]

/-- **The runs of a sorted sequence** are determined by it. -/
theorem SortedRuns.alike_expand_iff (hr : SortedRuns cmp rs) (hs : SortedRuns cmp ss) :
    AlikeItems cmp (expand rs) (expand ss) ↔ AlikeRuns cmp rs ss :=
  ⟨fun h => hr.alike_of_countRun hs (hr.countRun_eq_of_alike hs h), AlikeRuns.expand⟩

/-- **The runs of a multiset** are determined by the counts of its classes. -/
theorem SortedRuns.countRun_iff (hr : SortedRuns cmp rs) (hs : SortedRuns cmp ss) :
    (∀ e, countRun cmp e rs = countRun cmp e ss) ↔ AlikeRuns cmp rs ss :=
  ⟨hr.alike_of_countRun hs, fun h => hr.countRun_eq_of_alike hs h.expand⟩

end SortedRuns

/-! ### Bags -/

namespace Bag

variable {σ : Type} {a b : Bag α}

/-- Bags with the same counts, and with elements of the same classes at the same slots. -/
structure SameForm (a b : Bag α) : Prop where
  counts_eq : a.counts = b.counts
  elements_alike : AlikeItems a.comparator.compare a.elements.toList b.elements.toList

/-- Columns that match slot by slot are runs that are alike. -/
theorem sameForm_iff (ha : a.WellFormed) (hb : b.WellFormed) :
    a.SameForm b ↔ AlikeRuns a.comparator.compare a.entries b.entries := by
  rw [alikeRuns_iff, Columns.map_fst_entries ha.length_eq, Columns.map_fst_entries hb.length_eq,
    Columns.map_snd_entries ha.length_eq, Columns.map_snd_entries hb.length_eq, Array.toList_inj]
  exact ⟨fun h => ⟨h.counts_eq, h.elements_alike⟩, fun h => ⟨h.1, h.2⟩⟩

/-- Where equal is identical, bags of one form have the same columns. -/
theorem SameForm.columns_eq [Std.LawfulEqCmp a.comparator.compare] (ha : a.WellFormed)
    (hb : b.WellFormed) (h : a.SameForm b) :
    a.elements = b.elements ∧ a.counts = b.counts ∧ a.size = b.size := by
  refine ⟨Array.toList_inj.mp h.elements_alike.eq, h.counts_eq, ?_⟩
  rw [ha.size_eq, hb.size_eq, h.counts_eq]

variable [Std.TransCmp a.comparator.compare]

/-- Equality by lookups is agreement on the counts of all classes. -/
theorem equals_iff_countRun (ha : a.WellFormed) (hb : b.WellFormed)
    (hc : b.comparator.compare = a.comparator.compare) :
    BagLike.equals a b = true ↔
      ∀ e, countRun a.comparator.compare e a.entries = countRun a.comparator.compare e b.entries := by
  have hlawful : Std.TransCmp b.comparator.compare := by
    rw [hc]
    infer_instance
  have hsoundA : a.SoundUpTo (alike a.comparator.compare) :=
    ⟨ha, inferInstance, fun _ _ => Iff.rfl⟩
  have hsoundB : b.SoundUpTo (alike a.comparator.compare) := by
    refine ⟨hb, hlawful, fun _ _ => ?_⟩
    rw [hc]
    exact Iff.rfl
  have hcountA : ∀ e, BagLike.count a e = countRun a.comparator.compare e a.entries :=
    ha.soundIn.count_eq
  have hcountB : ∀ e, BagLike.count b e = countRun a.comparator.compare e b.entries := by
    rw [← hc]
    exact hb.soundIn.count_eq
  rw [(faithful_class hsoundA).equals_iff_count (faithful_class hsoundB)]
  simp only [hcountA, hcountB]

/-- **All ways to compare sound bags in one order agree.**  Looking up what the one lists in the other,
comparing lexicographically, and walking along both come to the same: the columns have one form, with
nothing left open but which elements represent the classes. -/
theorem equal_iff_sameForm (ha : a.WellFormed) (hb : b.WellFormed)
    (hc : b.comparator.compare = a.comparator.compare) (state : σ) :
    (BagLike.equals a b = true ↔ a.SameForm b) ∧
    (a.compareTo b = .eq ↔ a.SameForm b) ∧
    (((a.corresponds b.toList fun x y => pure (a.comparator.compare x y == .eq)).run
      state).1 = true ↔ a.SameForm b) ∧
    (Std.LawfulEqCmp a.comparator.compare → BagLike.equals a b = true →
      a.elements = b.elements ∧ a.counts = b.counts ∧ a.size = b.size) := by
  have hsortedA := ha.soundIn.sortedRuns
  have hsortedB := hb.soundIn.sortedRuns
  rw [hc] at hsortedB
  have hexpand : AlikeItems a.comparator.compare (expand a.entries) (expand b.entries) ↔
      a.SameForm b :=
    (hsortedA.alike_expand_iff hsortedB).trans (sameForm_iff ha hb).symm
  have hequals : BagLike.equals a b = true ↔ a.SameForm b := by
    rw [equals_iff_countRun ha hb hc, hsortedA.countRun_iff hsortedB, sameForm_iff ha hb]
  refine ⟨hequals, ?_, ?_, fun _ h => (hequals.mp h).columns_eq ha hb⟩
  · rw [← hexpand, ← compareLex_eq_eq_iff, compareTo_eq_compareLex ha.tallied]
    rfl
  · rw [← hexpand, corresponds_ofPred ha]
    simp only [beq_iff_eq]
    rfl

/-- Numbers by tens, the same bag with other representatives, and bags of numbers in their own order. -/
theorem equal_iff_sameForm_byTens :
    let c : Comparator Nat := .byKey 0 (· / 10)
    let a : Bag Nat := ⟨⟨#[12, 25], #[2, 1], c, 3⟩⟩
    let b : Bag Nat := ⟨⟨#[17, 21], #[2, 1], c, 3⟩⟩
    let m : Bag Nat := ⟨⟨#[12, 25], #[2, 1], .natural 0, 3⟩⟩
    let n : Bag Nat := ⟨⟨#[12, 25], #[2, 1], .natural 1, 3⟩⟩
    (a.WellFormed ∧ b.WellFormed ∧ a.SameForm b ∧ a.elements ≠ b.elements ∧
      BagLike.equals a b = true ∧ a.compareTo b = .eq ∧
      ((a.corresponds b.toList fun x y => pure (c.compare x y == .eq)).run ()).1 = true) ∧
    m.WellFormed ∧ n.WellFormed ∧ BagLike.equals m n = true ∧ m.elements = n.elements := by
  intro c a b m n
  have ha : a.WellFormed := by decide
  have hb : b.WellFormed := by decide
  have hm : m.WellFormed := by decide
  have hn : n.WellFormed := by decide
  have hform : a.SameForm b := ⟨rfl, .cons rfl (.cons rfl .nil)⟩
  have hsame : m.SameForm n := ⟨rfl, .cons rfl (.cons rfl .nil)⟩
  obtain ⟨hequals, hcompare, hwalk, -⟩ := equal_iff_sameForm ha hb rfl ()
  obtain ⟨hequals', -, -, hcolumns⟩ := equal_iff_sameForm hm hn rfl ()
  have hmn := hequals'.mpr hsame
  exact ⟨⟨ha, hb, hform, by decide, hequals.mpr hform, hcompare.mpr hform, hwalk.mpr hform⟩,
    hm, hn, hmn, (hcolumns inferInstance hmn).1⟩

end Bag

end SortedMultiset
