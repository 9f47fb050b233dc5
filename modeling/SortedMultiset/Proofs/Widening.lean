import Mathlib.Data.List.Basic
import SortedMultiset.Bag.Extremum
import SortedMultiset.Proofs.Bag.Edit
import SortedMultiset.Proofs.Comparison

/-!
# A bag and its edits in the order of bags

More occurrences of an element make the sequence of a bag longer in one place: behind all that is not
greater than the element, and before what is greater (`Widens`).  Fewer of them undo that.  So the first
difference between a bag and its edit lies at the end of a run, and what stands there is either a greater
element or nothing at all.

That turns the order around.  A greater element is pushed back by what is put in before it, so the longer
sequence is the lesser one (`Widens.gt`); only where nothing is greater the shorter sequence is a proper
prefix, and less (`Widens.lt`).

* `Bag.compareTo_edited`: how a bag compares to itself with more or fewer occurrences of an element.
-/

namespace SortedMultiset

variable {α : Type} {cmp : α → α → Ordering} {e x : α} {n : Nat} {r : α × Nat}
  {xs ys zs : List α} {rs : List (α × Nat)}

/-! ### Sequences with a run put in -/

/-- The sequence `ys` is `xs` with `n` more elements of the class of `e`, where the greater ones begin. -/
def Widens (cmp : α → α → Ordering) (e : α) (n : Nat) (xs ys : List α) : Prop :=
  ∃ before behind x, xs = before ++ behind ∧ ys = before ++ (List.replicate n x ++ behind) ∧
    cmp x e = .eq ∧ (∀ y ∈ before, cmp y e ≠ .gt) ∧ ∀ y ∈ behind, cmp y e = .gt

theorem widens_of_all_gt (hx : cmp x e = .eq) (h : ∀ y ∈ xs, cmp y e = .gt) :
    Widens cmp e n xs (List.replicate n x ++ xs) :=
  ⟨[], xs, x, rfl, rfl, hx, by simp, h⟩

namespace Widens

/-- What is not greater stands in front of both. -/
theorem replicate_append (h : Widens cmp e n xs ys) (hx : cmp x e ≠ .gt) (k : Nat) :
    Widens cmp e n (List.replicate k x ++ xs) (List.replicate k x ++ ys) := by
  obtain ⟨before, behind, y, rfl, rfl, hy, hbefore, hbehind⟩ := h
  refine ⟨List.replicate k x ++ before, behind, y, by simp, by simp, hy, fun z hz => ?_, hbehind⟩
  rcases List.mem_append.mp hz with hz | hz
  · rw [List.eq_of_mem_replicate hz]
    exact hx
  · exact hbefore z hz

/-- The same elements are greater. -/
theorem exists_gt_iff (h : Widens cmp e n xs ys) :
    (∃ y ∈ ys, cmp y e = .gt) ↔ ∃ y ∈ xs, cmp y e = .gt := by
  obtain ⟨before, behind, x, rfl, rfl, hx, -, -⟩ := h
  constructor
  · rintro ⟨y, hy, hgt⟩
    refine ⟨y, ?_, hgt⟩
    rcases List.mem_append.mp hy with hy | hy
    · exact List.mem_append_left _ hy
    rcases List.mem_append.mp hy with hy | hy
    · rw [List.eq_of_mem_replicate hy, hx] at hgt
      exact Ordering.noConfusion hgt
    · exact List.mem_append_right _ hy
  · rintro ⟨y, hy, hgt⟩
    refine ⟨y, ?_, hgt⟩
    rcases List.mem_append.mp hy with hy | hy
    · exact List.mem_append_left _ hy
    · exact List.mem_append_right _ (List.mem_append_right _ hy)

end Widens

/-! ### Which sequence is less -/

section Order

variable [Std.TransCmp cmp]

theorem compareLex_append_left (xs ys zs : List α) :
    List.compareLex cmp (xs ++ ys) (xs ++ zs) = List.compareLex cmp ys zs := by
  induction xs with
  | nil => rfl
  | cons x xs ih =>
    have hx : cmp x x = .eq := Std.ReflCmp.compare_self
    rw [List.cons_append, List.cons_append, List.compareLex_cons_cons, hx]
    exact ih

/-- **Behind everything** there is only more of the same sequence. -/
theorem Widens.lt (h : Widens cmp e n xs ys) (hn : 0 < n) (htop : ∀ y ∈ xs, cmp y e ≠ .gt) :
    List.compareLex cmp xs ys = .lt := by
  obtain ⟨before, behind, x, rfl, rfl, -, -, hbehind⟩ := h
  have hnil : behind = [] := List.eq_nil_iff_forall_not_mem.mpr fun y hy =>
    htop y (List.mem_append_right _ hy) (hbehind y hy)
  obtain ⟨n, rfl⟩ := Nat.exists_eq_add_one_of_ne_zero (Nat.ne_of_gt hn)
  rw [hnil, compareLex_append_left, List.replicate_succ, List.cons_append, List.compareLex_nil_cons]

/-- **Before a greater element** what is put in comes first. -/
theorem Widens.gt (h : Widens cmp e n xs ys) (hn : 0 < n) (hgreater : ∃ y ∈ xs, cmp y e = .gt) :
    List.compareLex cmp xs ys = .gt := by
  obtain ⟨before, behind, x, rfl, rfl, hx, hbefore, hbehind⟩ := h
  obtain ⟨y, hy, hgt⟩ := hgreater
  have hmem : y ∈ behind := (List.mem_append.mp hy).resolve_left fun hy => hbefore y hy hgt
  obtain ⟨n, rfl⟩ := Nat.exists_eq_add_one_of_ne_zero (Nat.ne_of_gt hn)
  cases behind with
  | nil => exact absurd hmem List.not_mem_nil
  | cons z behind =>
    have hzx : cmp z x = .gt := by
      rw [Std.TransCmp.congr_right hx]
      exact hbehind z (by simp)
    rw [compareLex_append_left, List.replicate_succ, List.cons_append, List.compareLex_cons_cons, hzx]
    rfl

/-! ### What edits do to the sequence -/

theorem widens_insertRun (h : SortedRuns cmp rs) :
    Widens cmp e n (expand rs) (expand (insertRun cmp e n rs)) := by
  induction rs with
  | nil => exact widens_of_all_gt Std.ReflCmp.compare_self (by simp)
  | cons r rs ih =>
    cases hre : cmp r.1 e with
    | lt =>
      rw [insertRun_of_lt hre]
      exact (ih h.tail).replicate_append (by rw [hre]; decide) r.2
    | eq =>
      have htail : Widens cmp e n (expand rs) (List.replicate n r.1 ++ expand rs) :=
        widens_of_all_gt hre (forall_mem_expand (h.tail_gt (by rw [hre]; decide)))
      rw [insertRun_of_eq hre, expand_cons, expand_cons, ← List.replicate_append_replicate,
        List.append_assoc]
      exact htail.replicate_append (by rw [hre]; decide) r.2
    | gt =>
      rw [insertRun_of_gt hre]
      refine widens_of_all_gt Std.ReflCmp.compare_self (forall_mem_expand fun s hs => ?_)
      rcases List.mem_cons.mp hs with rfl | hs
      · exact hre
      · exact h.tail_gt (by rw [hre]; decide) s hs

theorem widens_removeRun (h : SortedRuns cmp rs) (hr : findRun cmp e rs = some r) (hn : n ≤ r.2) :
    Widens cmp e n (expand (removeRun cmp e n rs)) (expand rs) := by
  induction rs with
  | nil => cases hr
  | cons s rs ih =>
    cases hse : cmp s.1 e with
    | lt =>
      rw [findRun_cons_of_lt hse] at hr
      rw [removeRun_of_lt hse]
      exact (ih h.tail hr).replicate_append (by rw [hse]; decide) s.2
    | eq =>
      rw [findRun_cons_of_eq hse] at hr
      obtain rfl := Option.some.inj hr
      -- what is left of the run, which may be nothing, stays in front
      have hleft : expand (removeRun cmp e n (s :: rs)) =
          List.replicate (s.2 - n) s.1 ++ expand rs := by
        rw [removeRun_of_eq hse]
        split_ifs with hlt
        · rfl
        · rw [Nat.sub_eq_zero_of_le (Nat.le_of_not_lt hlt)]
          rfl
      have htail : Widens cmp e n (expand rs) (List.replicate n s.1 ++ expand rs) :=
        widens_of_all_gt hse (forall_mem_expand (h.tail_gt (by rw [hse]; decide)))
      rw [hleft, expand_cons, replicate_split (Nat.sub_le s.2 n), Nat.sub_sub_self hn,
        List.append_assoc]
      exact htail.replicate_append (by rw [hse]; decide) (s.2 - n)
    | gt =>
      rw [h.findRun_cons_of_gt hse] at hr
      cases hr

end Order

/-! ### Bags -/

namespace Bag

variable {b : Bag α} {c : Comparator α}

theorem mem_toList_iff (h : b.WellFormed) : x ∈ b.toList ↔ x ∈ b.elements := by
  rw [← Array.mem_toList_iff, ← Columns.map_fst_entries h.length_eq, toList, expand, List.mem_flatMap,
    List.mem_map]
  refine exists_congr fun r => and_congr_right fun hr => ?_
  rw [List.mem_replicate, eq_comm (a := x)]
  exact and_iff_right (Nat.ne_of_gt (h.soundIn.sortedRuns.positive r hr))

variable [Std.TransCmp c.compare]

theorem widens_insertMany (h : b.SoundIn c) (e : α) (hn : 0 < n) :
    Widens c.compare e n b.toList (b.insertMany e n).value.toList := by
  rw [toList, toList, entries_insertMany h, addRun_of_ne_zero (Nat.ne_of_gt hn)]
  exact widens_insertRun h.sortedRuns

theorem widens_erase (h : b.SoundIn c) (he : b.contains e = true) :
    Widens c.compare e 1 (b.erase e).value.toList b.toList := by
  rw [h.contains_eq, Option.isSome_iff_exists] at he
  obtain ⟨r, hr⟩ := he
  rw [toList, toList, entries_erase h]
  exact widens_removeRun h.sortedRuns hr (h.sortedRuns.positive r (findRun_mem hr))

/-- A stored element is like the last one exactly if nothing is greater. -/
theorem last_like_iff (h : b.SoundIn c) (he : b.contains e = true) :
    (∃ x, b.last = .ok x ∧ c.compare x e = .eq) ↔ ∀ x ∈ b.elements, c.compare x e ≠ .gt := by
  unfold Columns.contains at he
  cases hs : b.search e with
  | absent i =>
    rw [hs] at he
    exact Bool.noConfusion he
  | found i =>
    obtain ⟨pre, r, post, hentries, -, hlt, heq, hgt⟩ := h.search_found hs
    have helements : b.elements.toList = pre.map Prod.fst ++ r.1 :: post.map Prod.fst := by
      rw [← Columns.map_fst_entries h.length_eq, hentries, List.map_append, List.map_cons]
    unfold last
    rw [← Array.getLast?_toList]
    simp only [← Array.mem_toList_iff]
    rw [helements]
    rcases List.eq_nil_or_concat' post with rfl | ⟨post, s, rfl⟩
    · refine iff_of_true ⟨r.1, by simp [orEmpty], heq⟩ fun x hx => ?_
      rcases List.mem_append.mp hx with hx | hx
      · obtain ⟨s, hs, rfl⟩ := List.mem_map.mp hx
        rw [hlt s hs]
        exact Ordering.noConfusion
      · rw [List.mem_singleton.mp hx, heq]
        exact Ordering.noConfusion
    · have hsgt : c.compare s.1 e = .gt := hgt s (by simp)
      have hend : pre.map Prod.fst ++ r.1 :: (post ++ [s]).map Prod.fst =
          (pre.map Prod.fst ++ r.1 :: post.map Prod.fst) ++ [s.1] := by simp
      refine iff_of_false ?_ fun hall => hall s.1 (by simp) hsgt
      rintro ⟨x, hx, hxe⟩
      rw [hend, List.getLast?_concat] at hx
      rw [← Except.ok.inj hx, hsgt] at hxe
      exact Ordering.noConfusion hxe

theorem compareTo_insertMany (h : b.SoundIn c) (e : α) (hn : 0 < n) :
    ((∀ x ∈ b.elements, c.compare x e ≠ .gt) → b.compareTo (b.insertMany e n).value = .lt) ∧
      ((∃ x ∈ b.elements, c.compare x e = .gt) → b.compareTo (b.insertMany e n).value = .gt) := by
  have hwidens := widens_insertMany h e hn
  simp only [← mem_toList_iff h.wellFormed]
  rw [compareTo_of_comparator h.comparator_eq h.tallied]
  exact ⟨hwidens.lt hn, hwidens.gt hn⟩

theorem compareTo_erase (h : b.SoundIn c) (he : b.contains e = true) :
    ((∀ x ∈ b.elements, c.compare x e ≠ .gt) → b.compareTo (b.erase e).value = .gt) ∧
      ((∃ x ∈ b.elements, c.compare x e = .gt) → b.compareTo (b.erase e).value = .lt) := by
  have hwidens := widens_erase h he
  simp only [← mem_toList_iff h.wellFormed]
  rw [compareTo_of_comparator h.comparator_eq h.tallied]
  constructor
  · intro htop
    refine Std.OrientedCmp.gt_of_lt (hwidens.lt Nat.one_pos fun y hy hgt => ?_)
    obtain ⟨z, hz, hzgt⟩ := hwidens.exists_gt_iff.mpr ⟨y, hy, hgt⟩
    exact htop z hz hzgt
  · intro hgreater
    exact Std.OrientedCmp.lt_of_gt (hwidens.gt Nat.one_pos (hwidens.exists_gt_iff.mp hgreater))

omit [Std.TransCmp c.compare] in
/-- **A bag and its edits.**  With more occurrences of an element a bag is greater if nothing in it is
greater than the element; in an empty bag nothing is.  Otherwise it is less, and never is it equal.  With
one occurrence less it is less if the element is like the last one, and otherwise greater.  Removing what
is not there makes no difference. -/
theorem compareTo_edited [Std.TransCmp b.comparator.compare] (hb : b.WellFormed) (e : α) :
    (∀ n, 0 < n →
      ((∀ x ∈ b.elements, b.comparator.compare x e ≠ .gt) →
        b.compareTo (b.insertMany e n).value = .lt) ∧
      ((∃ x ∈ b.elements, b.comparator.compare x e = .gt) →
        b.compareTo (b.insertMany e n).value = .gt)) ∧
    (b.contains e = true →
      ((∃ x, b.last = .ok x ∧ b.comparator.compare x e = .eq) →
        b.compareTo (b.erase e).value = .gt) ∧
      ((¬∃ x, b.last = .ok x ∧ b.comparator.compare x e = .eq) →
        b.compareTo (b.erase e).value = .lt)) ∧
    (b.contains e = false → b.compareTo (b.erase e).value = .eq) := by
  have h := hb.soundIn
  refine ⟨fun n hn => compareTo_insertMany h e hn, fun he => ?_, fun he => ?_⟩
  · obtain ⟨htop, hgreater⟩ := compareTo_erase h he
    rw [last_like_iff h he]
    exact ⟨htop, fun hnot => hgreater (by simpa using hnot)⟩
  · rw [erase_of_not_contains he, compareTo_of_comparator rfl h.tallied]
    exact Std.ReflCmp.compare_self

/-- Numbers by tens: 19 is like the first of the numbers, 31 like the last, and 40 would come behind them. -/
theorem compareTo_edited_byTens :
    let b : Bag Nat := ⟨⟨#[12, 25, 38], #[2, 1, 3], .byKey 0 (· / 10), 6⟩⟩
    b.WellFormed ∧ b.compareTo (b.insertMany 19 2).value = .gt ∧
      b.compareTo (b.insertMany 31 2).value = .lt ∧ b.compareTo (b.insertMany 40 1).value = .lt ∧
      b.compareTo (b.erase 19).value = .lt ∧ b.compareTo (b.erase 31).value = .gt ∧
      b.compareTo (b.erase 40).value = .eq := by
  intro b
  have hb : b.WellFormed := by decide
  obtain ⟨hfirst, hfewer, -⟩ := compareTo_edited hb 19
  obtain ⟨hlast, hfewer', -⟩ := compareTo_edited hb 31
  obtain ⟨hbehind, -, hnone⟩ := compareTo_edited hb 40
  refine ⟨hb, (hfirst 2 (by decide)).2 ⟨25, by simp [b], rfl⟩, (hlast 2 (by decide)).1 (by decide),
    (hbehind 1 (by decide)).1 (by decide), (hfewer (by decide +kernel)).2 ?_,
    (hfewer' (by decide +kernel)).1 ⟨38, rfl, rfl⟩, hnone (by decide +kernel)⟩
  rintro ⟨x, hx, hxe⟩
  obtain rfl : 38 = x := Except.ok.inj hx
  exact absurd hxe (by decide)

end Bag

end SortedMultiset
