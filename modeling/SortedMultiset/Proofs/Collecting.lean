import Mathlib.Data.List.Forall2
import Mathlib.Data.List.Induction
import SortedMultiset.Bag.Collect
import SortedMultiset.Proofs.Bag.Edit

/-!
# Collecting is sorting

A bag is collected by adding one item after the other.  On runs that is `gatherRuns`, and the run of
a class consists of the first item of the class and the number of its items (`findRun_gatherRuns`).
Written out, the runs are the items themselves, each replaced by the first one like it and stably
sorted (`expand_gatherRuns`).

The settings decide about the comparator and nothing else, and adding all items to the empty bag, or
collecting in the natural order, takes the same steps (`Bag.collect_sorts`).
-/

namespace SortedMultiset

variable {α : Type} {cmp : α → α → Ordering} {e x : α} {n : Nat} {rs : List (α × Nat)}
  {items : List α}

/-- The runs of the items, which are added one by one. -/
def gatherRuns (cmp : α → α → Ordering) (items : List α) : List (α × Nat) :=
  items.foldl (fun rs x => addRun cmp x 1 rs) []

/-- The first of the items that is like an element. -/
def firstLike (cmp : α → α → Ordering) (items : List α) (e : α) : Option α :=
  items.find? fun x => cmp x e == .eq

/-- How many of the items are like an element. -/
def countLike (cmp : α → α → Ordering) (items : List α) (e : α) : Nat :=
  items.countP fun x => cmp x e == .eq

/-- An item, replaced by the first that is like it. -/
def leader (cmp : α → α → Ordering) (items : List α) (x : α) : α :=
  (firstLike cmp items x).getD x

theorem gatherRuns_concat (items : List α) (x : α) :
    gatherRuns cmp (items ++ [x]) = addRun cmp x 1 (gatherRuns cmp items) := by
  unfold gatherRuns
  rw [List.foldl_append, List.foldl_cons, List.foldl_nil]

theorem firstLike_concat (items : List α) (x e : α) :
    firstLike cmp (items ++ [x]) e =
      (firstLike cmp items e).or (if cmp x e = .eq then some x else none) := by
  unfold firstLike
  rw [List.find?_append, List.find?_singleton]
  simp

theorem countLike_concat (items : List α) (x e : α) :
    countLike cmp (items ++ [x]) e =
      countLike cmp items e + if cmp x e = .eq then 1 else 0 := by
  unfold countLike
  rw [List.countP_append, List.countP_singleton]
  simp

theorem firstLike_compare (h : firstLike cmp items e = some x) : cmp x e = .eq := by
  have hx := List.find?_some h
  simpa using hx

theorem firstLike_eq_none : firstLike cmp items e = none ↔ countLike cmp items e = 0 := by
  unfold firstLike countLike
  rw [List.find?_eq_none, List.countP_eq_zero]

variable [Std.TransCmp cmp]

/-- What is like one of two elements that are alike is like the other. -/
theorem like_congr (h : cmp e x = .eq) : (fun y => cmp y e == .eq) = fun y => cmp y x == .eq := by
  funext y
  rw [Std.TransCmp.congr_right h]

theorem firstLike_congr (h : cmp e x = .eq) : firstLike cmp items e = firstLike cmp items x := by
  unfold firstLike
  rw [like_congr h]

theorem countLike_congr (h : cmp e x = .eq) : countLike cmp items e = countLike cmp items x := by
  unfold countLike
  rw [like_congr h]

variable (cmp) in
/-- An item has a leader among the items. -/
theorem firstLike_leader (hx : x ∈ items) :
    firstLike cmp items (leader cmp items x) = some (leader cmp items x) := by
  unfold leader
  cases hf : firstLike cmp items x with
  | none =>
    have hself : cmp x x = .eq := Std.ReflCmp.compare_self
    have hnone := List.find?_eq_none.mp hf x hx
    rw [hself] at hnone
    exact absurd rfl hnone
  | some y =>
    rw [Option.getD_some, firstLike_congr (firstLike_compare hf), hf]

variable (cmp) in
theorem compare_leader (items : List α) (x : α) : cmp (leader cmp items x) x = .eq := by
  unfold leader
  cases hf : firstLike cmp items x with
  | none => exact Std.ReflCmp.compare_self
  | some y => exact firstLike_compare hf

/-- A later item does not change who leads the earlier ones. -/
theorem leader_concat (hx : x ∈ items) (y : α) :
    leader cmp (items ++ [y]) x = leader cmp items x := by
  have hleader := firstLike_leader cmp hx
  rw [firstLike_congr (compare_leader cmp items x)] at hleader
  unfold leader
  rw [firstLike_concat]
  unfold leader at hleader
  rw [hleader]
  rfl

/-! ### The runs of the items -/

theorem sortedRuns_gatherRuns (items : List α) : SortedRuns cmp (gatherRuns cmp items) :=
  List.foldlRecOn items _ .nil fun _ h _ _ => sortedRuns_addRun h

variable (cmp) in
/-- **The run of a class** is its first item with the number of its items. -/
theorem findRun_gatherRuns (items : List α) (e : α) :
    findRun cmp e (gatherRuns cmp items) =
      (firstLike cmp items e).map fun x => (x, countLike cmp items e) := by
  induction items using List.reverseRecOn generalizing e with
  | nil => rfl
  | append_singleton items x ih =>
    rw [gatherRuns_concat, findRun_addRun (sortedRuns_gatherRuns items), ih, ih, firstLike_concat,
      countLike_concat]
    by_cases hxe : cmp x e = .eq
    · rw [if_pos ⟨Nat.one_ne_zero, hxe⟩, if_pos hxe, if_pos hxe, firstLike_congr hxe,
        countLike_congr hxe]
      cases hf : firstLike cmp items e with
      | none =>
        rw [firstLike_eq_none.mp hf]
        rfl
      | some y => rfl
    · rw [if_neg (fun h => hxe h.2), if_neg hxe, if_neg hxe, Option.or_none, Nat.add_zero]

/-- The runs are those of the classes of the items. -/
theorem mem_gatherRuns {r : α × Nat} :
    r ∈ gatherRuns cmp items ↔ ∃ x ∈ items, r = (leader cmp items x, countLike cmp items x) := by
  constructor
  · intro hr
    have hsorted : SortedRuns cmp (gatherRuns cmp items) := sortedRuns_gatherRuns items
    have hfind := hsorted.findRun_self hr
    rw [findRun_gatherRuns, Option.map_eq_some_iff] at hfind
    obtain ⟨x, hx, hxr⟩ := hfind
    obtain rfl : x = r.1 := congrArg Prod.fst hxr
    refine ⟨r.1, List.mem_of_find?_eq_some hx, ?_⟩
    unfold leader
    rw [hx]
    exact hxr.symm
  · rintro ⟨x, hx, rfl⟩
    have hfind := findRun_gatherRuns cmp items (leader cmp items x)
    rw [firstLike_leader cmp hx, countLike_congr (compare_leader cmp items x)] at hfind
    exact findRun_mem hfind

/-! ### The runs written out -/

theorem SortedRuns.pairwise_expand (h : SortedRuns cmp rs) :
    (expand rs).Pairwise fun a b => (cmp a b).isLE := by
  induction rs with
  | nil => exact .nil
  | cons r rs ih =>
    rw [expand_cons, List.pairwise_append]
    refine ⟨?_, ih h.tail, ?_⟩
    · refine List.pairwise_replicate.mpr (Or.inr ?_)
      have hself : cmp r.1 r.1 = .eq := Std.ReflCmp.compare_self
      rw [hself]
      rfl
    · intro a ha
      rw [List.eq_of_mem_replicate ha]
      refine forall_mem_expand fun s hs => ?_
      rw [h.head_lt hs]
      rfl

/-- An addition writes out the representative of the class. -/
theorem expand_insertRun_perm (h : SortedRuns cmp rs) :
    (expand (insertRun cmp e n rs)).Perm
      (List.replicate n (grownRun e n (findRun cmp e rs)).1 ++ expand rs) := by
  induction rs with
  | nil => exact .refl _
  | cons r rs ih =>
    cases hre : cmp r.1 e with
    | lt =>
      rw [insertRun_of_lt hre, findRun_cons_of_lt hre, expand_cons, expand_cons]
      refine ((ih h.tail).append_left _).trans ?_
      rw [← List.append_assoc, ← List.append_assoc]
      exact List.perm_append_comm.append_right _
    | eq =>
      rw [insertRun_of_eq hre, findRun_cons_of_eq hre, expand_cons, expand_cons]
      show (List.replicate (r.2 + n) r.1 ++ expand rs).Perm
        (List.replicate n r.1 ++ (List.replicate r.2 r.1 ++ expand rs))
      rw [← List.append_assoc, List.replicate_append_replicate, Nat.add_comm]
    | gt =>
      rw [insertRun_of_gt hre, h.findRun_cons_of_gt hre]
      exact .refl _

/-- Written out, the runs of the items are the items, each replaced by its leader. -/
theorem expand_gatherRuns_perm (items : List α) :
    (expand (gatherRuns cmp items)).Perm (items.map (leader cmp items)) := by
  induction items using List.reverseRecOn with
  | nil => exact .refl _
  | append_singleton items x ih =>
    have hlast : (grownRun x 1 (findRun cmp x (gatherRuns cmp items))).1 =
        leader cmp (items ++ [x]) x := by
      unfold leader
      rw [findRun_gatherRuns, firstLike_concat]
      cases firstLike cmp items x with
      | none => rw [if_pos Std.ReflCmp.compare_self]; rfl
      | some y => rfl
    have hmap : items.map (leader cmp (items ++ [x])) = items.map (leader cmp items) :=
      List.map_congr_left fun y hy => leader_concat hy x
    rw [gatherRuns_concat, addRun_of_ne_zero Nat.one_ne_zero, List.map_append, hmap]
    refine (expand_insertRun_perm (sortedRuns_gatherRuns items)).trans ?_
    rw [hlast]
    exact List.perm_append_comm.trans (ih.append_right _)

/-- **Collecting is sorting.**  Written out, the runs of the items are the stably sorted items, each
replaced by its leader. -/
theorem expand_gatherRuns (items : List α) :
    expand (gatherRuns cmp items) =
      (items.mergeSort fun x y => (cmp x y).isLE).map (leader cmp items) := by
  refine List.Perm.eq_of_pairwise ?_ (sortedRuns_gatherRuns items).pairwise_expand ?_ ?_
  · intro a b ha hb hab hba
    obtain ⟨r, hr, har⟩ := List.mem_flatMap.mp ha
    obtain ⟨y, hy, rfl⟩ := List.mem_map.mp hb
    obtain ⟨x, hx, rfl⟩ := mem_gatherRuns.mp hr
    obtain rfl : a = leader cmp items x := List.eq_of_mem_replicate har
    -- leaders that are alike are the same, each being the first of its class
    have heq : cmp (leader cmp items x) (leader cmp items y) = .eq :=
      Std.OrientedCmp.isLE_antisymm hab hba
    have hfirst := firstLike_leader cmp hx
    rw [firstLike_congr heq, firstLike_leader cmp (List.mem_mergeSort.mp hy)] at hfirst
    exact (Option.some.inj hfirst).symm
  · rw [List.pairwise_map]
    have htotal : ∀ x y, ((cmp x y).isLE || (cmp y x).isLE) = true := by
      intro x y
      rw [← Std.OrientedCmp.isGE_eq_isLE (a := x)]
      cases cmp x y <;> rfl
    refine (List.pairwise_mergeSort (fun _ _ _ => Std.TransCmp.isLE_trans) htotal items).imp ?_
    intro x y hxy
    rw [Std.TransCmp.congr_left (compare_leader cmp items x),
      Std.TransCmp.congr_right (compare_leader cmp items y)]
    exact hxy
  · exact (expand_gatherRuns_perm items).trans ((List.mergeSort_perm _ _).symm.map _)

/-- Where like items are the same, nothing is replaced. -/
theorem leader_eq_self [Std.LawfulEqCmp cmp] (items : List α) (x : α) : leader cmp items x = x :=
  Std.LawfulEqCmp.eq_of_compare (compare_leader cmp items x)

/-! ### Bags of items -/

omit [Std.TransCmp cmp] in
theorem Builder.ofSettings_eq_ok_iff {s : Settings α} {b : Builder α} :
    Builder.ofSettings s = .ok b ↔ ∃ c, s.comparator? = some c ∧ b = .empty c := by
  unfold Builder.ofSettings Settings.resolve
  cases s.comparator? with
  | none => exact iff_of_false (fun h => by cases h) (fun ⟨_, h, _⟩ => by cases h)
  | some c =>
    constructor
    · intro h
      exact ⟨c, rfl, (Except.ok.inj h).symm⟩
    · rintro ⟨d, hd, rfl⟩
      obtain rfl := Option.some.inj hd
      rfl

namespace Bag

theorem collect_eq_ok_iff {s : Settings α} {t : Traced (Bag α)} :
    collect s items = .ok t ↔
      ∃ c, s.comparator? = some c ∧ t = ((Builder.empty c).addAll items).freeze := by
  unfold collect
  cases h : Builder.ofSettings s with
  | error err =>
    refine iff_of_false (fun h => by cases h) fun ⟨c, hc, _⟩ => ?_
    rw [Builder.ofSettings_eq_ok_iff.mpr ⟨c, hc, rfl⟩] at h
    cases h
  | ok b =>
    obtain ⟨c, hc, rfl⟩ := Builder.ofSettings_eq_ok_iff.mp h
    constructor
    · intro ht
      exact ⟨c, hc, (Except.ok.inj ht).symm⟩
    · rintro ⟨d, hd, rfl⟩
      obtain rfl := Option.some.inj (hc.symm.trans hd)
      rfl

variable {c : Comparator α} [Std.TransCmp c.compare]

theorem entries_addAll_empty (items : List α) :
    ((Builder.empty c).addAll items).entries = gatherRuns c.compare items :=
  Builder.entries_addAll (Builder.soundIn_empty c) items

/-- **Collecting is a stable sort with run compression.**  Settings that carry a comparator always
give a bag.  Its runs ascend, and they are those of the first items of the classes with the numbers
of items in them; written out, it is the stably sorted items, each replaced by the first one like
it.  Adding all items to the empty bag gives the same bag, and so does collecting in the natural
order, if that is the order. -/
theorem collect_sorts {s : Settings α} (hs : s.comparator? = some c) (items : List α) :
    ∃ t, collect s items = .ok t ∧
      (t.value.entries.Pairwise fun r r' => c.compare r.1 r'.1 = .lt) ∧
      (∀ r, r ∈ t.value.entries ↔
        ∃ x ∈ items, r = (leader c.compare items x, countLike c.compare items x)) ∧
      t.value.toList =
        (items.mergeSort fun x y => (c.compare x y).isLE).map (leader c.compare items) ∧
      ((empty c).insertAll items).value = t.value ∧
      (∀ [Ord α] (label : Nat), c = .natural label → (ofList label items).value = t.value ∧
        List.Forall₂ (fun x y => compare x y = .eq) t.value.toList
          (items.mergeSort fun x y => (compare x y).isLE)) ∧
      (Std.LawfulEqCmp c.compare →
        t.value.toList = items.mergeSort fun x y => (c.compare x y).isLE) := by
  have hentries : ((Builder.empty c).addAll items).freeze.value.entries =
      gatherRuns c.compare items := by
    rw [Builder.entries_freeze, entries_addAll_empty]
  have hexpand : ((Builder.empty c).addAll items).freeze.value.toList =
      (items.mergeSort fun x y => (c.compare x y).isLE).map (leader c.compare items) := by
    rw [toList, hentries, expand_gatherRuns]
  refine ⟨((Builder.empty c).addAll items).freeze, ?_, ?_, ?_, hexpand, rfl, ?_, ?_⟩
  · exact collect_eq_ok_iff.mpr ⟨c, hs, rfl⟩
  · rw [hentries]
    exact (sortedRuns_gatherRuns items).ascending
  · intro r
    rw [hentries]
    exact mem_gatherRuns
  · rintro _ label rfl
    refine ⟨rfl, ?_⟩
    rw [hexpand, List.forall₂_map_left_iff]
    exact List.forall₂_same.mpr fun x _ => compare_leader (Comparator.natural label).compare items x
  · intro _
    have hid : leader c.compare items = id := funext fun x => leader_eq_self items x
    rw [hexpand, hid, List.map_id]

/-- Numbers with the same tens are alike, and the first of them stands for all. -/
theorem collect_sorts_byTens :
    ∃ t, collect { comparator? := some (.byKey 0 (· / 10)), capacity := 1 } [25, 12, 31, 17, 22] =
        .ok t ∧ (12, 2) ∈ t.value.entries ∧ (25, 2) ∈ t.value.entries ∧
      (31, 1) ∈ t.value.entries := by
  obtain ⟨t, ht, -, hmem, -⟩ := collect_sorts
    (s := { comparator? := some (.byKey 0 (· / 10)), capacity := 1 }) rfl [25, 12, 31, 17, 22]
  refine ⟨t, ht, (hmem _).mpr ⟨17, ?_⟩, (hmem _).mpr ⟨22, ?_⟩, (hmem _).mpr ⟨31, ?_⟩⟩
  · decide
  · decide
  · decide

end Bag

end SortedMultiset
