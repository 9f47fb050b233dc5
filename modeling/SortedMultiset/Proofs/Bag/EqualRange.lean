import SortedMultiset.Proofs.Bag.Ordinals

/-!
# Where an element stands among the ordinals

To any element, stored or not, the expanded sequence of a sound bag has three parts: what is less, what is
like it, what is greater (`EqualRange`).  Three parts of the library see them from different sides.  A
search ends between runs (`Columns.SoundIn.runs_around`), an index sums up the counts before a slot, an
ordinal is looked up by walking the counts.  That they agree on where the parts meet is the law of this
module.

An element that is not stored has a place all the same.  Its range is there and empty, so one law covers
both (`Bag.equalRange`).

* `Bag.equalRange_of_indexOf`: the range of an element starts at its index and is as long as its count.
-/

namespace SortedMultiset

variable {α : Type} {e : α}

/-- The runs around an element: those before, the run of its class, if there is one, those behind. -/
theorem Columns.SoundIn.runs_around {t : Columns α} {c : Comparator α} [Std.TransCmp c.compare]
    (h : t.SoundIn c) (e : α) :
    ∃ pre mid post, t.entries = pre ++ (mid ++ post) ∧ (∀ s ∈ pre, c.compare s.1 e = .lt) ∧
      (∀ s ∈ mid, c.compare s.1 e = .eq) ∧ (∀ s ∈ post, c.compare s.1 e = .gt) ∧
      total mid = t.count e := by
  unfold count
  cases hs : t.search e with
  | found i =>
    obtain ⟨pre, r, post, he, rfl, hlt, heq, hgt⟩ := h.search_found hs
    have hcount := Columns.getD_counts he
    exact ⟨pre, [r], post, he, hlt, by simpa using heq, hgt, by simpa using hcount.symm⟩
  | absent i =>
    obtain ⟨pre, post, he, -, hlt, hgt⟩ := h.search_absent hs
    exact ⟨pre, [], post, he, hlt, by simp, hgt, rfl⟩

/-- A comparison that goes by the place: less before `start`, equal at the `n` places from there on,
greater behind them. -/
theorem three_parts {o : Ordering} {j start n : Nat} (hlt : j < start → o = .lt)
    (heq : start ≤ j → j < start + n → o = .eq) (hgt : start + n ≤ j → o = .gt) :
    (o = .lt ↔ j < start) ∧ (o = .eq ↔ start ≤ j ∧ j < start + n) ∧ (o = .gt ↔ start + n ≤ j) := by
  rcases Nat.lt_or_ge j start with hj | hj
  · rw [hlt hj]
    exact ⟨iff_of_true rfl hj, iff_of_false Ordering.noConfusion (by omega),
      iff_of_false Ordering.noConfusion (by omega)⟩
  rcases Nat.lt_or_ge j (start + n) with hn | hn
  · rw [heq hj hn]
    exact ⟨iff_of_false Ordering.noConfusion (by omega), iff_of_true rfl ⟨hj, hn⟩,
      iff_of_false Ordering.noConfusion (by omega)⟩
  · rw [hgt hn]
    exact ⟨iff_of_false Ordering.noConfusion (by omega), iff_of_false Ordering.noConfusion (by omega),
      iff_of_true rfl hn⟩

namespace Bag

variable {b : Bag α} {c : Comparator α} {start n : Nat}

/-- The elements at the first `start` ordinals are less than an element, those at the next `n` are like it,
and the others are greater. -/
structure EqualRange (b : Bag α) (e : α) (start n : Nat) : Prop where
  end_le : start + n ≤ b.size
  compare_get : ∀ j < b.size, ∃ x, b.get j = .ok x ∧
    (b.comparator.compare x e = .lt ↔ j < start) ∧
    (b.comparator.compare x e = .eq ↔ start ≤ j ∧ j < start + n) ∧
    (b.comparator.compare x e = .gt ↔ start + n ≤ j)

section Lawful

variable [Std.TransCmp c.compare]

/-- The sequence around an element: what is less, what is like it, what is greater. -/
theorem toList_around (h : b.SoundIn c) (e : α) :
    ∃ lesser like greater, b.toList = lesser ++ (like ++ greater) ∧
      (∀ x ∈ lesser, c.compare x e = .lt) ∧ (∀ x ∈ like, c.compare x e = .eq) ∧
      (∀ x ∈ greater, c.compare x e = .gt) ∧
      lesser.length = (b.toList.countP fun x => c.compare x e == .lt) ∧ like.length = b.count e := by
  obtain ⟨pre, mid, post, he, hpre, hmid, hpost, hcount⟩ := h.runs_around e
  have hrest : ∀ s ∈ mid ++ post, c.compare s.1 e ≠ .lt := by
    intro s hs
    rcases List.mem_append.mp hs with hs | hs
    · rw [hmid s hs]
      exact Ordering.noConfusion
    · rw [hpost s hs]
      exact Ordering.noConfusion
  have hsequence : b.toList = expand (pre ++ (mid ++ post)) := by rw [toList, he]
  refine ⟨expand pre, expand mid, expand post, ?_, forall_mem_expand hpre, forall_mem_expand hmid,
    forall_mem_expand hpost, ?_, ?_⟩
  · rw [hsequence, expand_append, expand_append]
  · rw [hsequence, countP_lt_expand_append hpre hrest, length_expand]
  · rw [length_expand, hcount]

/-- **Every element has its range**, from the number of lesser ones on and as long as its count. -/
theorem equalRange (h : b.SoundIn c) (e : α) :
    b.EqualRange e (b.toList.countP fun x => c.compare x e == .lt) (b.count e) := by
  obtain ⟨lesser, like, greater, hsequence, hlesser, hlike, hgreater, hstart, hcount⟩ :=
    toList_around h e
  have hsize := length_toList h.wellFormed
  rw [hsequence, List.length_append, List.length_append] at hsize
  rw [← hstart, ← hcount]
  refine ⟨by omega, fun j hj => ?_⟩
  obtain ⟨x, hx, hget⟩ := get_of_lt h hj
  rw [hsequence] at hx
  refine ⟨x, hget, ?_⟩
  rw [h.comparator_eq]
  refine three_parts (fun hlt => ?_) (fun hge hlt => ?_) fun hge => ?_
  · rw [List.getElem?_append_left hlt] at hx
    exact hlesser x (List.mem_of_getElem? hx)
  · rw [List.getElem?_append_right hge, List.getElem?_append_left (by omega)] at hx
    exact hlike x (List.mem_of_getElem? hx)
  · rw [List.getElem?_append_right (by omega), List.getElem?_append_right (by omega)] at hx
    exact hgreater x (List.mem_of_getElem? hx)

/-- An element is contained exactly if it has a count. -/
theorem contains_iff_count_pos (h : b.SoundIn c) (e : α) : b.contains e = true ↔ 0 < b.count e := by
  rw [h.contains_eq, h.count_eq, countRun]
  cases hr : findRun c.compare e b.entries with
  | none => simp
  | some r => simpa using h.sortedRuns.positive r (findRun_mem hr)

/-- An element is contained exactly if it has an index. -/
theorem contains_iff_indexOf (h : b.SoundIn c) (e : α) :
    b.contains e = true ↔ (b.indexOf e).isSome = true := by
  rw [indexOf_eq h]
  cases b.contains e <;> simp

end Lawful

/-- **The law of the equal range.**  To be contained, to have a count and to have an index are the same.
The elements like one that is contained are found from its index on, at as many ordinals as its count
says, with the lesser ones before and the greater ones behind.  Of an element that is not contained there is
no like at any ordinal, and the lesser ones come first. -/
theorem equalRange_of_indexOf [Std.TransCmp b.comparator.compare] (hb : b.WellFormed) (e : α) :
    (b.contains e = true ↔ 0 < b.count e) ∧
    (b.contains e = true ↔ (b.indexOf e).isSome = true) ∧
    (∀ start, b.indexOf e = some start → b.EqualRange e start (b.count e)) ∧
    (b.contains e = false → ∃ lesser ≤ b.size, ∀ j < b.size, ∃ x, b.get j = .ok x ∧
      b.comparator.compare x e ≠ .eq ∧ (b.comparator.compare x e = .lt ↔ j < lesser)) := by
  have h := hb.soundIn
  have hrange := equalRange h e
  refine ⟨contains_iff_count_pos h e, contains_iff_indexOf h e, fun start hstart => ?_,
    fun habsent => ?_⟩
  · rw [indexOf_eq h] at hstart
    split_ifs at hstart
    obtain rfl := Option.some.inj hstart
    exact hrange
  · have hcount : b.count e = 0 := by
      have hiff := contains_iff_count_pos h e
      rw [habsent] at hiff
      simpa using hiff
    rw [hcount] at hrange
    refine ⟨_, hrange.end_le, fun j hj => ?_⟩
    obtain ⟨x, hget, hlt, heq, -⟩ := hrange.compare_get j hj
    refine ⟨x, hget, fun hx => ?_, hlt⟩
    have hnowhere := heq.mp hx
    omega

/-- Numbers by tens: 19 was never put in and is like 12, 25 stands in the middle, and 40 belongs before
the last run. -/
theorem equalRange_of_indexOf_byTens :
    let b : Bag Nat := ⟨⟨#[12, 25, 51], #[2, 3, 1], .byKey 0 (· / 10), 6⟩⟩
    b.WellFormed ∧ b.EqualRange 19 0 2 ∧ b.EqualRange 25 2 3 ∧ 0 < b.count 19 ∧
      (b.indexOf 40).isSome = false ∧
      ∃ lesser ≤ 6, ∀ j < 6, ∃ x, b.get j = .ok x ∧
        b.comparator.compare x 40 ≠ .eq ∧ (b.comparator.compare x 40 = .lt ↔ j < lesser) := by
  intro b
  have hb : b.WellFormed := by decide
  obtain ⟨hcount, -, hfirst, -⟩ := equalRange_of_indexOf hb 19
  obtain ⟨-, -, hmiddle, -⟩ := equalRange_of_indexOf hb 25
  obtain ⟨-, hindex, -, habsent⟩ := equalRange_of_indexOf hb 40
  have htwo : b.count 19 = 2 := by decide +kernel
  have hthree : b.count 25 = 3 := by decide +kernel
  have hnot : b.contains 40 = false := by decide +kernel
  rw [hnot] at hindex
  exact ⟨hb, htwo ▸ hfirst 0 (by decide +kernel), hthree ▸ hmiddle 2 (by decide +kernel),
    hcount.mp (by decide +kernel), by simpa using hindex, habsent hnot⟩

end Bag

end SortedMultiset
