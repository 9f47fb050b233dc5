import SortedMultiset.Indexer

/-!
# Ordinals and positions correspond

An indexer numbers the places of its runs, one run after the other.  Going from ordinals to positions
walks the counts and takes away what it passes; going back adds up what lies before.  That the two undo
each other rests on one fact: a position inside a run has fewer places before it than any later one
(`Indexer.Inside.placesBefore_lt`).  So different positions have different ordinals, in the same order,
and a walk that ends inside a run at a place of the right number has found the only one.

A count of zero is a run without places.  Then several runs start at one ordinal, and the place is in the
last of them.

* `Indexer.numbersPlaces_ofCounts`: what an indexer of any counts answers.
-/

namespace SortedMultiset

/-- A position comes before another: in an earlier run, or earlier in the same run. -/
def Position.Precedes (p q : Position) : Prop :=
  p.slot < q.slot ∨ p.slot = q.slot ∧ p.offset < q.offset

theorem Position.precedes_trichotomy (p q : Position) : p.Precedes q ∨ p = q ∨ q.Precedes p := by
  obtain ⟨i, m⟩ := p
  obtain ⟨j, n⟩ := q
  simp only [Precedes, Position.mk.injEq]
  omega

namespace Indexer

variable {x : Indexer} {i j n : Nat} {p q : Position}

/-! ### Where runs start -/

theorem prefixSum_mono (h : i ≤ j) : x.prefixSum i ≤ x.prefixSum j := by
  have htake : x.counts.toList.take i = (x.counts.toList.take j).take i := by
    rw [List.take_take, Nat.min_eq_left h]
  rw [prefixSum, prefixSum, htake]
  exact sumCounts_take_le i _

/-- A run starts where the one before it ends. -/
theorem prefixSum_succ (h : i < x.counts.size) :
    x.prefixSum (i + 1) = x.prefixSum i + x.counts.getD i 0 := by
  have hi : i < x.counts.toList.length := by simpa using h
  rw [prefixSum, prefixSum, List.take_succ_eq_append_getElem hi, sumCounts_append,
    ← Array.getElem_eq_getD (h := h), Array.getElem_toList, sumCounts_cons, sumCounts_nil]
  rfl

theorem prefixSum_end : x.prefixSum x.counts.size = sumCounts x.counts.toList := by
  rw [prefixSum, ← Array.length_toList, List.take_length]

/-! ### Places before a position -/

/-- A position inside a run. -/
structure Inside (x : Indexer) (p : Position) : Prop where
  slot_lt : p.slot < x.counts.size
  offset_lt : p.offset < x.counts.getD p.slot 0

/-- How many places there are before a position. -/
def placesBefore (x : Indexer) (p : Position) : Nat := x.prefixSum p.slot + p.offset

/-- The next run starts behind all places of a run. -/
theorem Inside.placesBefore_lt_start (hp : x.Inside p) :
    x.placesBefore p < x.prefixSum (p.slot + 1) := by
  rw [prefixSum_succ hp.slot_lt]
  exact Nat.add_lt_add_left hp.offset_lt _

/-- **Later positions have more places before them.** -/
theorem Inside.placesBefore_lt (hp : x.Inside p) (h : p.Precedes q) :
    x.placesBefore p < x.placesBefore q := by
  -- a later run starts where this one ends, or still further on, as runs without places are passed
  rcases h with hslot | ⟨hslot, hoffset⟩
  · calc x.placesBefore p < x.prefixSum (p.slot + 1) := hp.placesBefore_lt_start
      _ ≤ x.prefixSum q.slot := prefixSum_mono hslot
      _ ≤ x.placesBefore q := Nat.le_add_right _ _
  · rw [placesBefore, placesBefore, hslot]
    exact Nat.add_lt_add_left hoffset _

/-- A position inside a run is determined by the number of places before it. -/
theorem Inside.eq_of_placesBefore (hp : x.Inside p) (hq : x.Inside q)
    (h : x.placesBefore p = x.placesBefore q) : p = q := by
  rcases Position.precedes_trichotomy p q with hlt | heq | hlt
  · exact absurd h (Nat.ne_of_lt (hp.placesBefore_lt hlt))
  · exact heq
  · exact absurd h.symm (Nat.ne_of_lt (hq.placesBefore_lt hlt))

theorem Inside.precedes_iff (hp : x.Inside p) (hq : x.Inside q) :
    p.Precedes q ↔ x.placesBefore p < x.placesBefore q := by
  refine ⟨hp.placesBefore_lt, fun h => ?_⟩
  rcases Position.precedes_trichotomy p q with hlt | rfl | hlt
  · exact hlt
  · exact absurd h (Nat.lt_irrefl _)
  · exact absurd h (Nat.lt_asymm (hq.placesBefore_lt hlt))

/-- **The run that holds a place** is the one that starts before it and ends behind it. -/
theorem inside_iff :
    x.Inside p ↔ p.slot < x.counts.size ∧ x.placesBefore p < x.prefixSum (p.slot + 1) := by
  constructor
  · intro hp
    exact ⟨hp.slot_lt, hp.placesBefore_lt_start⟩
  · rintro ⟨hslot, hlt⟩
    rw [prefixSum_succ hslot] at hlt
    exact ⟨hslot, Nat.lt_of_add_lt_add_left hlt⟩

/-! ### The walk -/

theorem placesBefore_locate (x : Indexer) (n : Nat) : x.placesBefore (x.locate n) = n :=
  sumCounts_take_locateIn

/-- **The walk ends inside a run.** -/
theorem inside_locate (h : n < sumCounts x.counts.toList) : x.Inside (x.locate n) where
  slot_lt := by
    have hslot := locateIn_slot_lt h
    rw [Array.length_toList] at hslot
    exact hslot
  offset_lt := by
    have hoffset := locateIn_offset_lt h
    rw [List.getD_eq_getElem?_getD, Array.getElem?_toList, ← Array.getD_eq_getD_getElem?] at hoffset
    exact hoffset

theorem Inside.placesBefore_lt_total (hp : x.Inside p) :
    x.placesBefore p < sumCounts x.counts.toList := by
  rw [← prefixSum_end]
  exact Nat.lt_of_lt_of_le hp.placesBefore_lt_start (prefixSum_mono hp.slot_lt)

/-- **The walk finds every place.** -/
theorem Inside.locate_placesBefore (hp : x.Inside p) : x.locate (x.placesBefore p) = p :=
  (inside_locate hp.placesBefore_lt_total).eq_of_placesBefore hp (placesBefore_locate _ _)

/-! ### Answers and refusals -/

theorem position_of_lt (h : n < x.size) : x.position n = .ok (x.locate n) := by
  rw [position, requireIndex_of_lt h]
  rfl

theorem position_of_le (h : x.size ≤ n) : x.position n = .error (.indexOutOfRange n x.size) := by
  rw [position, requireIndex_of_le h]
  rfl

theorem position_eq_ok_iff : x.position n = .ok p ↔ n < x.size ∧ x.locate n = p := by
  rcases Nat.lt_or_ge n x.size with h | h
  · rw [position_of_lt h, Except.ok.injEq, and_iff_right h]
  · rw [position_of_le h]
    exact iff_of_false (fun he => by cases he) fun hn => Nat.not_lt.mpr h hn.1

theorem ordinal_of_slot (h : x.counts.size ≤ p.slot) :
    x.ordinal p = .error (.indexOutOfRange p.slot x.counts.size) := by
  rw [ordinal, requireIndex_of_le h]
  rfl

theorem ordinal_of_offset (hslot : p.slot < x.counts.size)
    (h : x.counts.getD p.slot 0 ≤ p.offset) :
    x.ordinal p = .error (.indexOutOfRange p.offset (x.counts.getD p.slot 0)) := by
  rw [ordinal, requireIndex_of_lt hslot, requireIndex_of_le h]
  rfl

theorem Inside.ordinal_eq (hp : x.Inside p) : x.ordinal p = .ok (x.placesBefore p) := by
  rw [ordinal, requireIndex_of_lt hp.slot_lt, requireIndex_of_lt hp.offset_lt]
  rfl

theorem ordinal_eq_ok_iff : x.ordinal p = .ok n ↔ x.Inside p ∧ x.placesBefore p = n := by
  by_cases hp : x.Inside p
  · rw [hp.ordinal_eq, Except.ok.injEq, and_iff_right hp]
  · refine iff_of_false (fun h => ?_) fun h => hp h.1
    rcases Nat.lt_or_ge p.slot x.counts.size with hslot | hslot
    · rw [ordinal_of_offset hslot (Nat.le_of_not_lt fun hlt => hp ⟨hslot, hlt⟩)] at h
      cases h
    · rw [ordinal_of_slot hslot] at h
      cases h

theorem runStart_of_le (h : i ≤ x.counts.size) : x.runStart i = .ok (x.prefixSum i) := by
  rw [runStart, requireIndex_of_lt (Nat.lt_succ_of_le h)]
  rfl

theorem runStart_of_lt (h : x.counts.size < i) :
    x.runStart i = .error (.indexOutOfRange i (x.counts.size + 1)) := by
  rw [runStart, requireIndex_of_le h]
  rfl

theorem runStart_eq_ok_iff : x.runStart i = .ok n ↔ i ≤ x.counts.size ∧ x.prefixSum i = n := by
  rcases Nat.lt_or_ge x.counts.size i with h | h
  · rw [runStart_of_lt h]
    exact iff_of_false (fun he => by cases he) fun hn => Nat.not_le.mpr h hn.1
  · rw [runStart_of_le h, Except.ok.injEq, and_iff_right h]

/-! ### The correspondence -/

/-- Ordinals and positions name the same places, in the same order, and everything else is refused. -/
structure NumbersPlaces (x : Indexer) : Prop where
  size_eq : x.size = sumCounts x.counts.toList
  position_ok : ∀ n, (∃ p, x.position n = .ok p) ↔ n < x.size
  position_refused : ∀ n, x.size ≤ n → x.position n = .error (.indexOutOfRange n x.size)
  ordinal_ok : ∀ p, (∃ n, x.ordinal p = .ok n) ↔
    p.slot < x.counts.size ∧ p.offset < x.counts.getD p.slot 0
  /-- The slot is looked at first. -/
  slot_refused : ∀ p : Position, x.counts.size ≤ p.slot →
    x.ordinal p = .error (.indexOutOfRange p.slot x.counts.size)
  offset_refused : ∀ p : Position, p.slot < x.counts.size → x.counts.getD p.slot 0 ≤ p.offset →
    x.ordinal p = .error (.indexOutOfRange p.offset (x.counts.getD p.slot 0))
  /-- Each way undoes the other. -/
  inverse : ∀ n p, x.position n = .ok p ↔ x.ordinal p = .ok n
  increasing : ∀ m n p q, x.position m = .ok p → x.position n = .ok q → (m < n ↔ p.Precedes q)
  /-- No place is in a run without occurrences. -/
  count_pos : ∀ n p, x.position n = .ok p → 0 < x.counts.getD p.slot 0
  runStart_ok : ∀ i, (∃ n, x.runStart i = .ok n) ↔ i ≤ x.counts.size
  runStart_refused : ∀ i, x.counts.size < i →
    x.runStart i = .error (.indexOutOfRange i (x.counts.size + 1))
  runStart_mono : ∀ i j m n, x.runStart i = .ok m → x.runStart j = .ok n → i ≤ j → m ≤ n
  runStart_end : x.runStart x.counts.size = .ok x.size
  /-- The run of a place starts before it, `offset` places ahead, and the next one behind it. -/
  run_of_place : ∀ n p, x.position n = .ok p ↔ ∃ first next, x.runStart p.slot = .ok first ∧
    x.runStart (p.slot + 1) = .ok next ∧ first ≤ n ∧ n < next ∧ p.offset = n - first

theorem position_iff_inside (hx : x.size = sumCounts x.counts.toList) :
    x.position n = .ok p ↔ x.Inside p ∧ x.placesBefore p = n := by
  rw [position_eq_ok_iff, hx]
  constructor
  · rintro ⟨hn, rfl⟩
    exact ⟨inside_locate hn, placesBefore_locate x n⟩
  · rintro ⟨hp, rfl⟩
    exact ⟨hp.placesBefore_lt_total, hp.locate_placesBefore⟩

/-- A place is in the run between whose ends it lies. -/
theorem inside_iff_between : x.Inside p ∧ x.placesBefore p = n ↔
    ∃ first next, x.runStart p.slot = .ok first ∧ x.runStart (p.slot + 1) = .ok next ∧
      first ≤ n ∧ n < next ∧ p.offset = n - first := by
  simp only [runStart_eq_ok_iff, inside_iff]
  constructor
  · rintro ⟨⟨hslot, hlt⟩, rfl⟩
    exact ⟨_, _, ⟨Nat.le_of_lt hslot, rfl⟩, ⟨hslot, rfl⟩, Nat.le_add_right _ _, hlt,
      (Nat.add_sub_cancel_left ..).symm⟩
  · rintro ⟨_, _, ⟨-, rfl⟩, ⟨hslot, rfl⟩, hle, hlt, hoffset⟩
    have hplaces : x.placesBefore p = n := by
      rw [placesBefore, hoffset, Nat.add_sub_cancel' hle]
    exact ⟨⟨hslot, hplaces ▸ hlt⟩, hplaces⟩

/-- **An indexer numbers the places of its runs**, whatever the counts are, zeros among them.  Ordinals
below the total and positions inside a run correspond to each other, in the same order; the run of a
place is the one between whose start and end it lies. -/
theorem numbersPlaces_ofCounts (counts : Array Nat) : (ofCounts counts).NumbersPlaces := by
  have hinside : ∀ {n p}, (ofCounts counts).position n = .ok p ↔
      (ofCounts counts).Inside p ∧ (ofCounts counts).placesBefore p = n :=
    position_iff_inside rfl
  exact {
    size_eq := rfl
    position_ok := fun n => by simp only [position_eq_ok_iff, exists_and_left, exists_eq', and_true]
    position_refused := fun _ => position_of_le
    ordinal_ok := fun p => by
      simp only [ordinal_eq_ok_iff, exists_and_left, exists_eq', and_true]
      exact ⟨fun hp => ⟨hp.slot_lt, hp.offset_lt⟩, fun hp => ⟨hp.1, hp.2⟩⟩
    slot_refused := fun _ => ordinal_of_slot
    offset_refused := fun _ => ordinal_of_offset
    inverse := fun n p => hinside.trans ordinal_eq_ok_iff.symm
    increasing := fun m n p q hm hn => by
      obtain ⟨hp, rfl⟩ := hinside.mp hm
      obtain ⟨hq, rfl⟩ := hinside.mp hn
      exact (hp.precedes_iff hq).symm
    count_pos := fun n p hn => Nat.zero_lt_of_lt (hinside.mp hn).1.offset_lt
    runStart_ok := fun i => by simp only [runStart_eq_ok_iff, exists_and_left, exists_eq', and_true]
    runStart_refused := fun _ => runStart_of_lt
    runStart_mono := fun i j m n hi hj hij => by
      obtain ⟨-, rfl⟩ := runStart_eq_ok_iff.mp hi
      obtain ⟨-, rfl⟩ := runStart_eq_ok_iff.mp hj
      exact prefixSum_mono hij
    runStart_end := runStart_eq_ok_iff.mpr ⟨Nat.le_refl _, prefixSum_end⟩
    run_of_place := fun n p => hinside.trans inside_iff_between }

/-- Zeros at the start, in the middle and at the end: the slots 2, 3 and 4 all start at the ordinal 2,
and its place is in the last of them. -/
example :
    let x := ofCounts #[0, 2, 0, 0, 1, 0]
    x.runStart 2 = .ok 2 ∧ x.runStart 4 = .ok 2 ∧ x.position 2 = .ok ⟨4, 0⟩ ∧
      x.ordinal ⟨3, 0⟩ = .error (.indexOutOfRange 0 0) := ⟨rfl, rfl, rfl, rfl⟩

end Indexer

end SortedMultiset
