import Mathlib.Data.List.Nodup
import Mathlib.Data.List.Perm.Subperm
import Mathlib.Data.Quot
import SortedMultiset.Holding
import SortedMultiset.Proofs.Columns.Sound

/-!
# Equality of multisets

Equality asks the left side only: the right must have as many distinct elements and count every entry
of the left as often.  That is enough.  A multiset is `Faithful` if it lists what it counts, elements
with one key being the same to it, and its totals are those of the listing.  Sound bags and builders
are faithful, and so are maps of counts, whatever zeros stand in them (`Holding.Sound.faithful`).  If
two faithful multisets are equal, the entries of the left are among those of the right, and as there
are as many of them, they are all the entries there are (`Faithful.equals_iff_perm`).

So equality is agreement on all counts (`Faithful.equals_iff_count`), whatever the forms and orders.
`Holding.equals_equivalence` says what follows.
-/

namespace SortedMultiset

variable {α β γ κ : Type}

theorem sumCounts_perm {xs ys : List Nat} (h : xs.Perm ys) : sumCounts xs = sumCounts ys := by
  induction h with
  | nil => rfl
  | cons n _ ih => rw [sumCounts_cons, sumCounts_cons, ih]
  | swap m n xs => simp only [sumCounts_cons]; omega
  | trans _ _ ih ih' => exact ih.trans ih'

/-! ### Multisets that list what they count -/

/-- The entries of a multiset, each element replaced by its key. -/
def keyedEntries [BagLike β α] (key : α → κ) (x : β) : List (κ × Nat) :=
  (BagLike.entries x).map fun r => (key r.1, r.2)

@[simp] theorem keyedEntries_id [BagLike β α] (x : β) :
    keyedEntries id x = BagLike.entries x :=
  List.map_id _

/-- A multiset that lists what it counts, elements with one key being the same to it. -/
structure Faithful [BagLike β α] (key : α → κ) (x : β) : Prop where
  distinct_eq : BagLike.distinct x = (BagLike.entries x).length
  size_eq : BagLike.size x = total (BagLike.entries x)
  nodup : (keyedEntries key x).Nodup
  mem_iff : ∀ e n, (key e, n) ∈ keyedEntries key x ↔ 0 < n ∧ BagLike.count x e = n

namespace Faithful

variable [BagLike β α] [BagLike γ α] {key : α → κ} {x : β} {y : γ}

/-- Counts agree exactly when the same entries are listed, in whatever order. -/
theorem count_eq_iff_perm (hx : Faithful key x) (hy : Faithful key y) :
    (∀ e, BagLike.count x e = BagLike.count y e) ↔
      (keyedEntries key x).Perm (keyedEntries key y) := by
  rw [List.perm_ext_iff_of_nodup hx.nodup hy.nodup]
  constructor
  · rintro h ⟨k, n⟩
    -- an entry of either side has the key of some element
    have hiff : ∀ e, (key e, n) ∈ keyedEntries key x ↔ (key e, n) ∈ keyedEntries key y := by
      intro e
      rw [hx.mem_iff, hy.mem_iff, h e]
    constructor
    · intro hm
      obtain ⟨r, -, hr⟩ := List.mem_map.mp hm
      obtain rfl : key r.1 = k := congrArg Prod.fst hr
      exact (hiff r.1).mp hm
    · intro hm
      obtain ⟨r, -, hr⟩ := List.mem_map.mp hm
      obtain rfl : key r.1 = k := congrArg Prod.fst hr
      exact (hiff r.1).mpr hm
  · intro h e
    have hiff : ∀ n, 0 < n → (BagLike.count x e = n ↔ BagLike.count y e = n) := by
      intro n hn
      have hmem := h (key e, n)
      rwa [hx.mem_iff, hy.mem_iff, and_iff_right hn, and_iff_right hn] at hmem
    have hleft := hiff (BagLike.count x e)
    have hright := hiff (BagLike.count y e)
    omega

/-- **Equality is listing the same entries.**  Those of the left are found on the right, and there are
as many of them on both sides. -/
theorem equals_iff_perm (hx : Faithful key x) (hy : Faithful key y) :
    BagLike.equals x y = true ↔ (keyedEntries key x).Perm (keyedEntries key y) := by
  have hlen : BagLike.distinct x = BagLike.distinct y ↔
      (keyedEntries key x).length = (keyedEntries key y).length := by
    rw [hx.distinct_eq, hy.distinct_eq, keyedEntries, keyedEntries, List.length_map,
      List.length_map]
  unfold BagLike.equals
  rw [Bool.and_eq_true, beq_iff_eq, hlen, List.all_eq_true]
  constructor
  · rintro ⟨hlength, hall⟩
    have hsub : keyedEntries key x ⊆ keyedEntries key y := by
      intro s hs
      obtain ⟨r, hr, rfl⟩ := List.mem_map.mp hs
      have hpos : 0 < r.2 := ((hx.mem_iff r.1 r.2).mp hs).1
      exact (hy.mem_iff r.1 r.2).mpr ⟨hpos, by simpa using hall r hr⟩
    exact (hx.nodup.subperm hsub).perm_of_length_le (Nat.le_of_eq hlength.symm)
  · intro h
    refine ⟨h.length_eq, fun r hr => ?_⟩
    have hmem : (key r.1, r.2) ∈ keyedEntries key y :=
      h.mem_iff.mp (List.mem_map.mpr ⟨r, hr, rfl⟩)
    simpa using ((hy.mem_iff r.1 r.2).mp hmem).2

/-- **Equality is agreement on all counts.** -/
theorem equals_iff_count (hx : Faithful key x) (hy : Faithful key y) :
    BagLike.equals x y = true ↔ ∀ e, BagLike.count x e = BagLike.count y e :=
  (equals_iff_perm hx hy).trans (count_eq_iff_perm hx hy).symm

theorem distinct_eq_of_equals (hx : Faithful key x) (hy : Faithful key y)
    (h : BagLike.equals x y = true) : BagLike.distinct x = BagLike.distinct y := by
  have hperm := (equals_iff_perm hx hy).mp h
  unfold keyedEntries at hperm
  rw [hx.distinct_eq, hy.distinct_eq]
  simpa using hperm.length_eq

theorem size_eq_of_equals (hx : Faithful key x) (hy : Faithful key y)
    (h : BagLike.equals x y = true) : BagLike.size x = BagLike.size y := by
  have hperm := ((equals_iff_perm hx hy).mp h).map Prod.snd
  unfold keyedEntries at hperm
  rw [List.map_map, List.map_map] at hperm
  rw [hx.size_eq, hy.size_eq]
  exact sumCounts_perm hperm

end Faithful

/-! ### Sorted runs list what they count -/

section SortedRuns

variable {cmp : α → α → Ordering} {rs : List (α × Nat)} {key : α → κ}

theorem SortedRuns.nodup_keyed (h : SortedRuns cmp rs)
    (hkey : ∀ a b, cmp a b = .eq ↔ key a = key b) :
    (rs.map fun r => (key r.1, r.2)).Nodup := by
  refine List.pairwise_map.mpr (h.ascending.imp fun {r s} hlt heq => ?_)
  have hrs : key r.1 = key s.1 := congrArg Prod.fst heq
  rw [(hkey r.1 s.1).mpr hrs] at hlt
  exact Ordering.noConfusion hlt

theorem SortedRuns.mem_keyed_iff [Std.TransCmp cmp] (h : SortedRuns cmp rs)
    (hkey : ∀ a b, cmp a b = .eq ↔ key a = key b) (e : α) (n : Nat) :
    (key e, n) ∈ (rs.map fun r => (key r.1, r.2)) ↔ 0 < n ∧ countRun cmp e rs = n := by
  unfold countRun
  constructor
  · intro hm
    obtain ⟨r, hr, hrn⟩ := List.mem_map.mp hm
    obtain ⟨hre, rfl⟩ := Prod.ext_iff.mp hrn
    have hfind : findRun cmp e rs = some r :=
      h.findRun_eq_some_iff.mpr ⟨hr, (hkey r.1 e).mpr hre⟩
    rw [hfind]
    exact ⟨h.positive r hr, rfl⟩
  · rintro ⟨hpos, hcount⟩
    cases hfind : findRun cmp e rs with
    | none =>
      rw [hfind] at hcount
      exact absurd hcount (Nat.ne_of_lt hpos)
    | some r =>
      rw [hfind] at hcount
      obtain ⟨hr, hre⟩ := h.findRun_eq_some_iff.mp hfind
      exact List.mem_map.mpr ⟨r, hr, Prod.ext ((hkey r.1 e).mp hre) hcount⟩

end SortedRuns

/-! ### Maps of counts list what they count -/

section CountMap

variable [DecidableEq α]

theorem lookup_eq_some_iff_mem {ps : List (α × Nat)} (h : (ps.map Prod.fst).Nodup) {e : α}
    {n : Nat} : ps.lookup e = some n ↔ (e, n) ∈ ps := by
  induction ps with
  | nil => simp
  | cons p ps ih =>
    obtain ⟨a, k⟩ := p
    obtain ⟨ha, htail⟩ := List.nodup_cons.mp h
    by_cases he : e = a
    · subst he
      have hnot : (e, n) ∉ ps := fun hm => ha (List.mem_map.mpr ⟨(e, n), hm, rfl⟩)
      rw [List.lookup_cons, beq_self_eq_true, List.mem_cons]
      simp [hnot, eq_comm]
    · rw [List.lookup_cons, beq_eq_false_iff_ne.mpr he, List.mem_cons]
      simp [he, ih htail]

omit [DecidableEq α] in
theorem total_filter_ne_zero (ps : List (α × Nat)) :
    total (ps.filter fun p => p.2 ≠ 0) = total ps := by
  induction ps with
  | nil => rfl
  | cons p ps ih =>
    by_cases hp : p.2 = 0
    · rw [List.filter_cons_of_neg (by simpa using hp), ih, total_cons, hp, Nat.zero_add]
    · rw [List.filter_cons_of_pos (by simpa using hp), total_cons, total_cons, ih]

namespace CountMap

variable (m : CountMap α)

omit [DecidableEq α] in
theorem nodup_entries : m.entries.Nodup :=
  (List.Nodup.of_map Prod.fst m.nodup).filter _

theorem mem_entries_iff (e : α) (n : Nat) : (e, n) ∈ m.entries ↔ 0 < n ∧ m.count e = n := by
  unfold entries count
  rw [List.mem_filter, ← lookup_eq_some_iff_mem m.nodup, decide_eq_true_eq, Nat.pos_iff_ne_zero]
  constructor
  · rintro ⟨hlookup, hn⟩
    rw [hlookup]
    exact ⟨hn, rfl⟩
  · rintro ⟨hn, hcount⟩
    cases hlookup : m.pairs.lookup e with
    | none =>
      rw [hlookup] at hcount
      exact absurd hcount.symm hn
    | some k =>
      rw [hlookup] at hcount
      exact ⟨congrArg some hcount, hn⟩

end CountMap

end CountMap

/-! ### Multisets in any form -/

/-- Only identical elements are alike. -/
def identical : Setoid α := ⟨Eq, eq_equivalence⟩

/-- A sound layout, in whatever order, whose comparator finds equal exactly what is alike. -/
structure Columns.SoundUpTo (t : Columns α) (like : Setoid α) : Prop where
  wellFormed : t.WellFormed
  lawful : Std.TransCmp t.comparator.compare
  eq_iff : ∀ a b, t.comparator.compare a b = .eq ↔ like a b

/-- Where equal is identical, sound columns tell all elements apart. -/
theorem Columns.WellFormed.soundUpTo_identical {t : Columns α} (h : t.WellFormed)
    [Std.TransCmp t.comparator.compare] [Std.LawfulEqCmp t.comparator.compare] :
    t.SoundUpTo identical :=
  ⟨h, inferInstance, fun _ _ => Std.LawfulEqCmp.compare_eq_iff_eq⟩

/-- What answers as sound columns do lists what it counts. -/
theorem Columns.SoundUpTo.faithful [BagLike β α] {t : Columns α} {like : Setoid α} {key : α → κ}
    (h : t.SoundUpTo like) (hkey : ∀ a b, like a b ↔ key a = key b) {x : β}
    (hentries : BagLike.entries x = t.entries) (hcount : ∀ e, BagLike.count x e = t.count e)
    (hsize : BagLike.size x = t.size) (hdistinct : BagLike.distinct x = t.distinct) :
    Faithful key x := by
  obtain ⟨hwf, hlawful, heq⟩ := h
  have hsorted := hwf.soundIn.sortedRuns
  have hclass : ∀ a b, t.comparator.compare a b = .eq ↔ key a = key b := fun a b =>
    (heq a b).trans (hkey a b)
  have hkeyed : keyedEntries key x = t.entries.map fun r => (key r.1, r.2) := by
    rw [keyedEntries, hentries]
  refine ⟨?_, ?_, ?_, fun e n => ?_⟩
  · rw [hdistinct, hentries, length_entries hwf.length_eq]
    rfl
  · rw [hsize, hentries, hwf.total_entries]
  · rw [hkeyed]
    exact hsorted.nodup_keyed hclass
  · rw [hkeyed, hcount, hwf.soundIn.count_eq]
    exact hsorted.mem_keyed_iff hclass e n

theorem Bag.faithful_class {b : Bag α} {like : Setoid α} (h : b.SoundUpTo like) :
    Faithful (Quotient.mk like) b :=
  h.faithful (fun _ _ => Quotient.eq.symm) rfl (fun _ => rfl) rfl rfl

variable [DecidableEq α]

/-- A map of counts lists what it counts, if different elements have different keys. -/
theorem CountMap.faithful (m : CountMap α) {key : α → κ} (hkey : Function.Injective key) :
    Faithful key m := by
  have hinj : Function.Injective fun r : α × Nat => (key r.1, r.2) := by
    intro r s hrs
    obtain ⟨hk, hn⟩ := Prod.ext_iff.mp hrs
    exact Prod.ext (hkey hk) hn
  refine ⟨rfl, (total_filter_ne_zero m.pairs).symm, m.nodup_entries.map hinj, fun e n => ?_⟩
  exact (List.mem_map_of_injective hinj (a := (e, n))).trans (m.mem_entries_iff e n)

/-- A sound bag or builder that tells elements apart by `like`, or a map of counts if only identical
elements are alike.  The counts of a map may be zero. -/
inductive Holding.Sound (like : Setoid α) : Holding α → Prop
  | bag {b : Bag α} : b.SoundUpTo like → Sound like (.sorted (.bag b))
  | builder {b : Builder α} : b.SoundUpTo like → Sound like (.sorted (.builder b))
  | counts {m : CountMap α} : (∀ a b, like a b ↔ a = b) → Sound like (.counts m)

namespace Holding

variable {like : Setoid α} {x : Holding α}

/-- **Multisets in good order are faithful**, in whatever form. -/
theorem Sound.faithful (h : x.Sound like) {key : α → κ} (hkey : ∀ a b, like a b ↔ key a = key b) :
    Faithful key x := by
  cases h with
  | bag hb => exact hb.faithful hkey rfl (fun _ => rfl) rfl rfl
  | builder hb => exact hb.faithful hkey rfl (fun _ => rfl) rfl rfl
  | @counts m hlike =>
    have hm : Faithful key m := m.faithful fun a b hab => (hlike a b).mp ((hkey a b).mpr hab)
    exact ⟨hm.distinct_eq, hm.size_eq, hm.nodup, hm.mem_iff⟩

theorem Sound.faithful_class (h : x.Sound like) : Faithful (Quotient.mk like) x :=
  h.faithful fun _ _ => Quotient.eq.symm

/-- **Equality is an equivalence across forms and orders.**  Among sound bags and builders whose
comparators find the same elements equal, and maps of counts if these are the identical ones, two are
equal exactly if they agree on all counts.  So equality is reflexive, symmetric and transitive in any
mixture, and equal multisets have one size and one number of distinct elements. -/
theorem equals_equivalence (like : Setoid α) :
    (∀ x y : Holding α, x.Sound like → y.Sound like →
      (BagLike.equals x y = true ↔ ∀ e, BagLike.count x e = BagLike.count y e) ∧
      (BagLike.equals x y = true →
        BagLike.size x = BagLike.size y ∧ BagLike.distinct x = BagLike.distinct y)) ∧
    Equivalence fun x y : { x : Holding α // x.Sound like } => BagLike.equals x.1 y.1 = true := by
  have hiff : ∀ x y : Holding α, x.Sound like → y.Sound like →
      (BagLike.equals x y = true ↔ ∀ e, BagLike.count x e = BagLike.count y e) :=
    fun x y hx hy => hx.faithful_class.equals_iff_count hy.faithful_class
  refine ⟨fun x y hx hy => ⟨hiff x y hx hy, fun h => ⟨?_, ?_⟩⟩, ?_, ?_, ?_⟩
  · exact hx.faithful_class.size_eq_of_equals hy.faithful_class h
  · exact hx.faithful_class.distinct_eq_of_equals hy.faithful_class h
  · rintro ⟨x, hx⟩
    exact (hiff x x hx hx).mpr fun _ => rfl
  · rintro ⟨x, hx⟩ ⟨y, hy⟩ h
    exact (hiff y x hy hx).mpr fun e => ((hiff x y hx hy).mp h e).symm
  · rintro ⟨x, hx⟩ ⟨y, hy⟩ ⟨z, hz⟩ h h'
    exact (hiff x z hx hz).mpr fun e => ((hiff x y hx hy).mp h e).trans ((hiff y z hy hz).mp h' e)

/-- A bag, a builder in the reversed order and a map in which a zero stands. -/
theorem equals_equivalence_mixed :
    ∃ (b : Bag Nat) (builder : Builder Nat) (m : CountMap Nat),
      b.entries = [(12, 2), (25, 1)] ∧ builder.entries = [(25, 1), (12, 2)] ∧
      m.pairs = [(25, 1), (7, 0), (12, 2)] ∧
      Sound identical (.sorted (.bag b)) ∧ Sound identical (.sorted (.builder builder)) ∧
      Sound identical (.counts m) ∧
      BagLike.equals b builder = true ∧ BagLike.equals builder m = true ∧
      BagLike.equals m b = true ∧ BagLike.size m = BagLike.size b := by
  let b : Bag Nat := ⟨⟨#[12, 25], #[2, 1], .natural 0, 3⟩⟩
  let builder : Builder Nat := ⟨⟨#[25, 12], #[1, 2], (Comparator.natural 0).reversed 1, 3⟩⟩
  let m : CountMap Nat := ⟨[(25, 1), (7, 0), (12, 2)], by decide⟩
  have hwf : b.WellFormed := by decide
  have hwf' : builder.WellFormed := by decide
  have hb : Sound identical (.sorted (.bag b)) := .bag hwf.soundUpTo_identical
  have hbuilder : Sound identical (.sorted (.builder builder)) :=
    .builder hwf'.soundUpTo_identical
  have hm : Sound identical (.counts m) := .counts fun _ _ => Iff.rfl
  obtain ⟨hall, hequivalence⟩ := equals_equivalence (identical : Setoid Nat)
  have hleft : BagLike.equals b builder = true := by decide +kernel
  have hright : BagLike.equals builder m = true := by decide
  have hback : BagLike.equals m b = true :=
    hequivalence.symm (x := ⟨_, hb⟩) (y := ⟨_, hm⟩)
      (hequivalence.trans (y := ⟨_, hbuilder⟩) hleft hright)
  exact ⟨b, builder, m, rfl, rfl, rfl, hb, hbuilder, hm, hleft, hright, hback,
    ((hall _ _ hm hb).2 hback).1⟩

end Holding

end SortedMultiset
