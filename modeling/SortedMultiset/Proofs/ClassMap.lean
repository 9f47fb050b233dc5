import Mathlib.Data.Finmap
import SortedMultiset.Proofs.Runs.Edit

/-!
# Multisets as finite maps

A total preorder sorts elements into classes, and a multiset is a finite map that gives every class
that occurs a `Stock`: a representative of the class and a positive count.  There are no columns,
slots or orders of classes in it, so this is what the edits of a multiset mean.

* `ClassMap.add`: a class that is there keeps its representative, a new one is represented by what
  was added;
* `ClassMap.remove`: a class with no more left than is removed goes; the answer says whether there
  was anything to remove;
* `ClassMap.Lists`: the map is the one that sorted runs list.  Additions and removals on both sides
  keep that (`ClassMap.Lists.add`, `ClassMap.Lists.remove`).
-/

namespace SortedMultiset

variable {α : Type} {cmp : α → α → Ordering} [Std.TransCmp cmp]

theorem total_eq_sum (rs : List (α × Nat)) :
    total rs = ((rs : Multiset (α × Nat)).map Prod.snd).sum := by
  induction rs with
  | nil => rfl
  | cons r rs ih => rw [total_cons, ih, ← Multiset.cons_coe, Multiset.map_cons, Multiset.sum_cons]

/-- Elements are alike if they compare equal. -/
def alike (cmp : α → α → Ordering) [Std.TransCmp cmp] : Setoid α where
  r a b := cmp a b = .eq
  iseqv := ⟨fun _ => Std.ReflCmp.compare_self, Std.OrientedCmp.eq_symm, Std.TransCmp.eq_trans⟩

/-- A class of elements that are alike. -/
def EqClass (cmp : α → α → Ordering) [Std.TransCmp cmp] : Type := Quotient (alike cmp)

/-- The class of an element. -/
def EqClass.of (cmp : α → α → Ordering) [Std.TransCmp cmp] (e : α) : EqClass cmp :=
  Quotient.mk (alike cmp) e

theorem EqClass.of_eq_of_iff {a b : α} : EqClass.of cmp a = EqClass.of cmp b ↔ cmp a b = .eq :=
  Quotient.eq

instance : DecidableEq (EqClass cmp) :=
  let _ : ∀ a b : α, Decidable ((alike cmp) a b) := fun a b =>
    inferInstanceAs (Decidable (cmp a b = .eq))
  inferInstanceAs (DecidableEq (Quotient (alike cmp)))

/-- What there is of a class. -/
structure Stock (q : EqClass cmp) where
  representative : α
  belongs : EqClass.of cmp representative = q
  count : Nat
  positive : 0 < count

namespace Stock

variable {q : EqClass cmp} {n : Nat}

/-- `n` more, of the same representative. -/
def grow (s : Stock q) (n : Nat) : Stock q :=
  ⟨s.representative, s.belongs, s.count + n, Nat.add_pos_left s.positive n⟩

/-- `n` less, which leaves some. -/
def shrink (s : Stock q) (n : Nat) (h : n < s.count) : Stock q :=
  ⟨s.representative, s.belongs, s.count - n, Nat.sub_pos_of_lt h⟩

/-- The stock as a run. -/
def run (s : Stock q) : α × Nat := (s.representative, s.count)

end Stock

/-- A multiset as a finite map from classes to what there is of them. -/
abbrev ClassMap (cmp : α → α → Ordering) [Std.TransCmp cmp] : Type :=
  Finmap fun q : EqClass cmp => Stock q

namespace ClassMap

variable {m : ClassMap cmp} {e x : α} {n : Nat} {rs : List (α × Nat)}

/-- Adds `n` of an element. -/
def add (m : ClassMap cmp) (e : α) (n : Nat) : ClassMap cmp :=
  if h : n = 0 then m
  else
    match m.lookup (.of cmp e) with
    | some s => m.insert (.of cmp e) (s.grow n)
    | none => m.insert (.of cmp e) ⟨e, rfl, n, Nat.pos_of_ne_zero h⟩

/-- Removes up to `n` of an element; says whether there was anything to remove. -/
def remove (m : ClassMap cmp) (e : α) (n : Nat) : Bool × ClassMap cmp :=
  if n = 0 then (false, m)
  else
    match m.lookup (.of cmp e) with
    | none => (false, m)
    | some s =>
      if h : n < s.count then (true, m.insert (.of cmp e) (s.shrink n h))
      else (true, m.erase (.of cmp e))

/-- Adds one of each item. -/
def addAll (m : ClassMap cmp) (items : List α) : ClassMap cmp :=
  items.foldl (fun m e => m.add e 1) m

/-- Removes one of each item. -/
def removeAll (m : ClassMap cmp) (items : List α) : ClassMap cmp :=
  items.foldl (fun m e => (m.remove e 1).2) m

/-- How many there are of the class of an element. -/
def count (m : ClassMap cmp) (e : α) : Nat :=
  match m.lookup (.of cmp e) with
  | some s => s.count
  | none => 0

/-- How many there are of all classes. -/
def size (m : ClassMap cmp) : Nat := (m.entries.map fun s => s.2.count).sum

/-- How many classes there are. -/
def distinct (m : ClassMap cmp) : Nat := m.keys.card

/-- The run of the class of an element. -/
def run (m : ClassMap cmp) (e : α) : Option (α × Nat) := (m.lookup (.of cmp e)).map Stock.run

/-! ### What an edit does to the runs -/

theorem run_eq_of_lookup {s : Stock (.of cmp e)} (h : m.lookup (.of cmp e) = some s) :
    m.run e = some s.run := by
  unfold run
  rw [h]
  rfl

theorem run_eq_none (h : m.lookup (.of cmp e) = none) : m.run e = none := by
  unfold run
  rw [h]
  rfl

theorem run_congr (h : cmp e x = .eq) : m.run e = m.run x := by
  unfold run
  rw [EqClass.of_eq_of_iff.mpr h]

theorem run_pos {r : α × Nat} (h : m.run e = some r) : 0 < r.2 := by
  obtain ⟨s, -, rfl⟩ := Option.map_eq_some_iff.mp h
  exact s.positive

theorem run_insert (s : Stock (.of cmp e)) :
    run (m.insert (.of cmp e) s) x = if cmp e x = .eq then some s.run else m.run x := by
  split_ifs with hex
  · rw [← run_congr hex]
    exact run_eq_of_lookup (Finmap.lookup_insert m)
  · unfold run
    rw [Finmap.lookup_insert_of_ne]
    intro h
    exact hex (EqClass.of_eq_of_iff.mp h.symm)

theorem run_erase :
    run (m.erase (.of cmp e)) x = if cmp e x = .eq then none else m.run x := by
  split_ifs with hex
  · rw [← run_congr hex]
    unfold run
    rw [Finmap.lookup_erase]
    rfl
  · unfold run
    rw [Finmap.lookup_erase_ne]
    intro h
    exact hex (EqClass.of_eq_of_iff.mp h.symm)

theorem run_add :
    (m.add e n).run x =
      if n ≠ 0 ∧ cmp e x = .eq then some (grownRun e n (m.run e)) else m.run x := by
  by_cases hn : n = 0
  · rw [if_neg (fun h => h.1 hn)]
    unfold add
    rw [dif_pos hn]
  have hcond : (n ≠ 0 ∧ cmp e x = .eq) = (cmp e x = .eq) := propext (and_iff_right hn)
  unfold add
  rw [dif_neg hn]
  cases h : m.lookup (.of cmp e) with
  | none =>
    dsimp only
    rw [run_insert, run_eq_none h]
    simp only [hcond]
    rfl
  | some s =>
    dsimp only
    rw [run_insert, run_eq_of_lookup h]
    simp only [hcond]
    rfl

theorem answer_remove : (m.remove e n).1 = (n != 0 && (m.run e).isSome) := by
  unfold remove
  split_ifs with hn
  · rw [hn]
    rfl
  · cases h : m.lookup (.of cmp e) with
    | none => rw [run_eq_none h, Option.isSome_none, Bool.and_false]
    | some s =>
      rw [run_eq_of_lookup h]
      dsimp only
      split_ifs
      · simp [hn]
      · simp [hn]

theorem shrunkRun_zero : shrunkRun 0 (m.run e) = m.run e := by
  cases h : m.run e with
  | none => rfl
  | some r =>
    unfold shrunkRun
    rw [Option.bind_some, if_pos (run_pos h), Nat.sub_zero]

theorem run_remove :
    (m.remove e n).2.run x = if cmp e x = .eq then shrunkRun n (m.run e) else m.run x := by
  by_cases hn : n = 0
  · rw [hn, shrunkRun_zero]
    show m.run x = _
    split_ifs with hex
    · exact (run_congr hex).symm
    · rfl
  unfold remove
  rw [if_neg hn]
  cases h : m.lookup (.of cmp e) with
  | none =>
    rw [run_eq_none h]
    show m.run x = _
    split_ifs with hex
    · rw [← run_congr hex, run_eq_none h]
      rfl
    · rfl
  | some s =>
    rw [run_eq_of_lookup h]
    dsimp only
    unfold shrunkRun
    rw [Option.bind_some]
    by_cases hlt : n < s.count
    · rw [dif_pos hlt, run_insert, if_pos (show n < s.run.2 from hlt)]
      rfl
    · rw [dif_neg hlt, run_erase, if_neg (show ¬ n < s.run.2 from hlt)]

/-! ### The runs that list a map -/

/-- The runs are sorted, and the run of every class is the one in the map. -/
structure Lists (m : ClassMap cmp) (rs : List (α × Nat)) : Prop where
  sorted : SortedRuns cmp rs
  findRun_eq : ∀ e, findRun cmp e rs = m.run e

theorem lists_empty : Lists (∅ : ClassMap cmp) [] :=
  ⟨.nil, fun _ => (run_eq_none (Finmap.lookup_empty _)).symm⟩

theorem Lists.add (h : m.Lists rs) (e : α) (n : Nat) : (m.add e n).Lists (addRun cmp e n rs) := by
  refine ⟨sortedRuns_addRun h.sorted, fun x => ?_⟩
  rw [findRun_addRun h.sorted, run_add, h.findRun_eq, h.findRun_eq]

theorem Lists.remove (h : m.Lists rs) (e : α) (n : Nat) :
    (m.remove e n).2.Lists (removeRun cmp e n rs) := by
  refine ⟨sortedRuns_removeRun h.sorted, fun x => ?_⟩
  rw [findRun_removeRun h.sorted, run_remove, h.findRun_eq, h.findRun_eq]

/-- What stands in the map stands among the runs. -/
theorem Lists.mem_iff (h : m.Lists rs) {r : α × Nat} :
    r ∈ rs ↔ ∃ s ∈ m.entries, s.2.run = r := by
  constructor
  · intro hr
    have hrun := h.sorted.findRun_self hr
    rw [h.findRun_eq] at hrun
    obtain ⟨s, hs, hsr⟩ := Option.map_eq_some_iff.mp hrun
    exact ⟨⟨_, s⟩, Finmap.lookup_eq_some_iff.mp hs, hsr⟩
  · -- the class is that of the representative
    rintro ⟨⟨q, a, rfl, n, hn⟩, hs, rfl⟩
    have hrun := run_eq_of_lookup (Finmap.lookup_eq_some_iff.mpr hs)
    rw [← h.findRun_eq] at hrun
    exact findRun_mem hrun

theorem injOn_run {s t : Σ q : EqClass cmp, Stock q} (h : s.2.run = t.2.run) : s = t := by
  obtain ⟨q, a, hq, n, hn⟩ := s
  obtain ⟨q', a', hq', n', hn'⟩ := t
  obtain ⟨rfl, rfl⟩ : a = a' ∧ n = n' := Prod.ext_iff.mp h
  obtain rfl := hq
  obtain rfl := hq'
  rfl

/-- **The runs list the map**, each class once. -/
theorem Lists.coe_eq (h : m.Lists rs) :
    (rs : Multiset (α × Nat)) = m.entries.map fun s => s.2.run := by
  have hmap : (m.entries.map fun s => s.2.run).Nodup :=
    m.nodup_entries.map fun _ _ hst => injOn_run hst
  refine (Multiset.Nodup.ext (Multiset.coe_nodup.mpr h.sorted.nodup) hmap).mpr fun r => ?_
  rw [Multiset.mem_coe, Multiset.mem_map]
  exact h.mem_iff

theorem Lists.length_eq (h : m.Lists rs) : rs.length = m.distinct := by
  have hcard := congrArg Multiset.card h.coe_eq
  rw [Multiset.coe_card, Multiset.card_map] at hcard
  rw [hcard]
  exact (Multiset.card_map Sigma.fst m.entries).symm

theorem Lists.total_eq (h : m.Lists rs) : total rs = m.size := by
  rw [total_eq_sum, h.coe_eq, Multiset.map_map]
  rfl

theorem Lists.countRun_eq (h : m.Lists rs) (e : α) : countRun cmp e rs = m.count e := by
  unfold countRun count
  rw [h.findRun_eq]
  unfold run
  cases m.lookup (.of cmp e) with
  | none => rfl
  | some s => rfl

theorem Lists.isSome_eq (h : m.Lists rs) (e : α) :
    (findRun cmp e rs).isSome = decide (EqClass.of cmp e ∈ m) := by
  rw [h.findRun_eq, Bool.eq_iff_iff, decide_eq_true_iff, ← Finmap.lookup_isSome]
  unfold run
  rw [Option.isSome_map]

end ClassMap

end SortedMultiset
