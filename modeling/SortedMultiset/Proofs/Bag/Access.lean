import Mathlib.Data.List.Range
import SortedMultiset.Bag.Access
import SortedMultiset.Proofs.Bag.Split
import SortedMultiset.Proofs.Walk

/-!
# Access by ordinal

An ordinal is found by walking the counts, a range of ordinals by a cursor that starts inside a run, and
the expanded sequence by writing out the runs.  All three agree.  Where an ordinal cuts a sound bag, the
expanded sequence goes on with what is left of the run that is cut (`Bag.CutsAt.drop_toList`), so the
element at the ordinal is that of the run (`Bag.get_eq_ok_iff`), and the cursor that starts there yields
the rest of the sequence, numbered (`Bag.yields_rangeCursor`).

* `Bag.access_by_ordinal`: single elements and ranges, what is visited, and what is refused for which
  reason;
* `Bag.cursors_walk`: every cursor of a sound bag is a walk over a list that the bag determines.
-/

namespace SortedMultiset

variable {σ α : Type}

theorem drop_zipIdx (xs : List α) (i k : Nat) :
    (xs.zipIdx k).drop i = (xs.drop i).zipIdx (k + i) := by
  induction i generalizing xs k with
  | zero => rfl
  | succ i ih =>
    cases xs with
    | nil => rfl
    | cons x xs =>
      rw [List.zipIdx_cons, List.drop_succ_cons, List.drop_succ_cons, ih, Nat.add_right_comm]
      rfl

namespace Bag

variable {b : Bag α} {c : Comparator α} {e : α} {i n first last offset : Nat} {r : α × Nat}
  {pre post : List (α × Nat)} {pairs : List (α × Nat)}

/-! ### Single elements -/

/-- **Behind an ordinal** comes what is left of the run that it cuts. -/
theorem CutsAt.drop_toList (hcut : b.CutsAt n pre r offset post) :
    b.toList.drop n = List.replicate (r.2 - offset) r.1 ++ expand post := by
  have hsplit : b.toList = (expand pre ++ List.replicate offset r.1) ++
      (List.replicate (r.2 - offset) r.1 ++ expand post) := by
    rw [toList, hcut.entries_eq, expand_append, expand_cons,
      replicate_split (Nat.le_of_lt hcut.offset_lt)]
    simp only [List.append_assoc]
  have hlength : (expand pre ++ List.replicate offset r.1).length = n := by
    rw [List.length_append, length_expand, List.length_replicate, hcut.total_add]
  rw [hsplit, ← hlength, List.drop_left]

theorem CutsAt.getElem?_toList (hcut : b.CutsAt n pre r offset post) : b.toList[n]? = some r.1 := by
  have hpos : r.2 - offset ≠ 0 := Nat.sub_ne_zero_of_lt hcut.offset_lt
  rw [← List.head?_drop, hcut.drop_toList, List.head?_append, List.head?_replicate, if_neg hpos]
  rfl

theorem CutsAt.position_eq (hcut : b.CutsAt n pre r offset post) (hn : n < b.size) :
    b.indexer.position n = .ok ⟨pre.length, offset⟩ :=
  (Indexer.position_of_lt hn).trans (congrArg Except.ok hcut.locate_eq)

theorem get_of_lt (h : b.SoundIn c) (hi : i < b.size) :
    ∃ e, b.toList[i]? = some e ∧ b.get i = .ok e := by
  obtain ⟨pre, r, offset, post, hcut⟩ := exists_cutsAt h hi
  refine ⟨r.1, hcut.getElem?_toList, ?_⟩
  unfold Bag.get
  rw [hcut.position_eq hi]
  dsimp only [bind, Except.bind]
  rw [Columns.getElem?_elements hcut.entries_eq]
  rfl

theorem get_of_le (hi : b.size ≤ i) : b.get i = .error (.indexOutOfRange i b.size) := by
  have hposition : b.indexer.position i = .error (.indexOutOfRange i b.size) :=
    Indexer.position_of_le hi
  unfold Bag.get
  rw [hposition]
  rfl

/-- **The element at an ordinal** is the one at that place of the expanded sequence. -/
theorem get_eq_ok_iff (h : b.SoundIn c) : b.get i = .ok e ↔ b.toList[i]? = some e := by
  by_cases hi : i < b.size
  · obtain ⟨x, hx, hget⟩ := get_of_lt h hi
    rw [hx, hget, Except.ok.injEq, Option.some.injEq]
  · have hle := Nat.le_of_not_lt hi
    have hnone : b.toList[i]? = none :=
      List.getElem?_eq_none (by rw [length_toList h.wellFormed]; exact hle)
    rw [get_of_le hle, hnone]
    exact iff_of_false (fun h => by cases h) (fun h => by cases h)

/-! ### Ranges -/

theorem rangeCursor_of_le (h : b.size ≤ last) :
    b.rangeCursor first last = .error (.indexOutOfRange last b.size) := by
  unfold rangeCursor
  rw [requireIndex_of_le h]
  rfl

theorem rangeCursor_of_lt (hlast : last < b.size) (h : last < first) :
    b.rangeCursor first last = .error (.invalidArgument "from" "from <= to") := by
  unfold rangeCursor
  rw [requireIndex_of_lt hlast, requireOrdered_of_lt h]
  rfl

theorem rangeCursor_eq_ok (hlast : last < b.size) (h : first ≤ last) :
    b.rangeCursor first last =
      .ok (.start b.toColumns (b.indexer.locate first) first (last + 1)) := by
  unfold rangeCursor
  rw [requireIndex_of_lt hlast, requireOrdered_of_le h]
  rfl

/-- The elements at `n` ordinals from the first on, each with its ordinal. -/
def numbered (b : Bag α) (first n : Nat) : List (α × Nat) :=
  ((b.toList.drop first).zipIdx first).take n

/-- **The cursor over a range** yields the elements at the ordinals of the range, numbered. -/
theorem yields_rangeCursor (h : b.SoundIn c) (hlast : last < b.size) (hle : first ≤ last) :
    Cursor.Yields (RangeCursor.start b.toColumns (b.indexer.locate first) first (last + 1))
      (b.numbered first (last + 1 - first)) := by
  obtain ⟨pre, r, offset, post, hcut⟩ := exists_cutsAt h (Nat.lt_of_le_of_lt hle hlast)
  have htotal := h.size_eq_append hcut.entries_eq
  rw [total_cons] at htotal
  have hbefore := hcut.total_add
  have hoffset := hcut.offset_lt
  unfold RangeCursor.start numbered
  rw [hcut.locate_eq, hcut.drop_toList]
  dsimp only
  rw [Columns.getD_counts hcut.entries_eq]
  exact RangeCursor.yields_of_run h.tallied hcut.entries_eq (by omega)

/-- **The cursor over the whole sequence** yields it, numbered from zero. -/
theorem yields_indexedCursor (h : b.SoundIn c) :
    Cursor.Yields b.indexedCursor (b.numbered 0 b.size) := by
  unfold indexedCursor RangeCursor.start numbered
  rw [List.drop_zero, toList]
  dsimp only
  cases he : b.entries with
  | nil =>
    have hsize : b.size = 0 := by rw [← h.total_entries, he, total_nil]
    rw [hsize]
    exact .done (RangeCursor.next?_of_stop (Nat.le_refl 0) _ _) rfl
  | cons r post =>
    have he' : b.entries = [] ++ r :: post := he
    have hsize := h.size_eq_append he'
    rw [total_nil, total_cons] at hsize
    have hcount : b.counts.getD 0 0 = r.2 := Columns.getD_counts he'
    rw [hcount, expand_cons]
    exact RangeCursor.yields_of_run h.tallied he' (by omega)

/-- Pairs that number the elements at `n` ordinals from the first on. -/
structure Numbers (b : Bag α) (first n : Nat) (pairs : List (α × Nat)) : Prop where
  /-- The ordinals come one after the other. -/
  ordinals : pairs.map Prod.snd = List.range' first n
  /-- Each comes with the element that is found at it. -/
  elements : ∀ p ∈ pairs, b.get p.2 = .ok p.1

theorem numbers_numbered (h : b.SoundIn c) (hn : first + n ≤ b.size) :
    b.Numbers first n (b.numbered first n) := by
  have hlength : (b.toList.drop first).length = b.size - first := by
    rw [List.length_drop, length_toList h.wellFormed]
  constructor
  · unfold numbered
    rw [List.map_take, List.zipIdx_map_snd, hlength]
    exact List.take_range'_of_length_ge (by omega)
  · rintro ⟨x, i⟩ hp
    have hmem : (x, i) ∈ (b.toList.drop first).zipIdx first := List.mem_of_mem_take hp
    obtain ⟨hle, hx⟩ := List.mk_mem_zipIdx_iff_le_and_getElem?_sub.mp hmem
    rw [List.getElem?_drop, Nat.add_sub_cancel' hle] at hx
    exact (get_eq_ok_iff h).mpr hx

/-- A range is refused to all who ask for it, and nothing is visited. -/
structure RangeRefused (b : Bag α) (first last : Nat) (cause : Error) : Prop where
  cursor_eq : b.rangeCursor first last = .error cause
  forRange_eq : ∀ {σ : Type} (visit : α → StateM σ Unit),
    b.forRange first last visit = pure (.error cause)
  forRangeWithIndex_eq : ∀ {σ : Type} (visit : α → Nat → StateM σ Unit),
    b.forRangeWithIndex first last visit = pure (.error cause)

/-- A range is gone through pair by pair by all who ask for it. -/
structure RangeVisited (b : Bag α) (first last : Nat) (pairs : List (α × Nat)) : Prop where
  cursor_eq : ∃ cursor, b.rangeCursor first last = .ok cursor ∧ Cursor.Yields cursor pairs
  forRange_eq : ∀ {σ : Type} (visit : α → StateM σ Unit),
    b.forRange first last visit = .ok <$> pairs.forM fun p => visit p.1
  forRangeWithIndex_eq : ∀ {σ : Type} (visit : α → Nat → StateM σ Unit),
    b.forRangeWithIndex first last visit = .ok <$> pairs.forM fun p => visit p.1 p.2

/-- Whoever asks for a range asks for its cursor first. -/
theorem rangeRefused_of_cursor {cause : Error} (h : b.rangeCursor first last = .error cause) :
    b.RangeRefused first last cause := by
  refine ⟨h, fun visit => ?_, fun visit => ?_⟩
  · unfold forRange
    rw [h]
  · unfold forRangeWithIndex
    rw [h]

theorem rangeVisited_of_cursor {cursor : RangeCursor α} (h : b.rangeCursor first last = .ok cursor)
    (hyields : Cursor.Yields cursor pairs) : b.RangeVisited first last pairs := by
  refine ⟨⟨cursor, h, hyields⟩, fun visit => ?_, fun visit => ?_⟩
  · unfold forRange
    rw [h, ← hyields.drain.1]
  · unfold forRangeWithIndex
    rw [h, ← hyields.drain.1]

/-- **Access by ordinal agrees with the expanded sequence.**  The element at an ordinal is the one at
that place, and behind the last place there is none.  A range that ends inside the bag and is not
reversed is gone through in order, each ordinal with its element; one that does not end inside is refused
for its end, even if it is reversed as well, and one that is only reversed is refused for its start.
Without a range, all ordinals are gone through. -/
theorem access_by_ordinal (hb : b.WellFormed) (i first last : Nat) :
    ((i < b.size → ∃ e, b.toList[i]? = some e ∧ b.get i = .ok e) ∧
      (b.size ≤ i → b.get i = .error (.indexOutOfRange i b.size))) ∧
    (first ≤ last → last < b.size →
      ∃ pairs, b.Numbers first (last - first + 1) pairs ∧ b.RangeVisited first last pairs) ∧
    (b.size ≤ last → b.RangeRefused first last (.indexOutOfRange last b.size)) ∧
    (last < first → last < b.size →
      b.RangeRefused first last (.invalidArgument "from" "from <= to")) ∧
    ∃ pairs, b.Numbers 0 b.size pairs ∧
      ∀ {σ : Type} (visit : α → Nat → StateM σ Unit),
        b.forEachWithIndex visit = pairs.forM fun p => visit p.1 p.2 := by
  have h := hb.soundIn
  refine ⟨⟨get_of_lt h, get_of_le⟩, fun hle hlast => ?_, fun hlast => ?_, fun hlt hlast => ?_, ?_⟩
  · have hlength : last + 1 - first = last - first + 1 := by omega
    have hyields := yields_rangeCursor h hlast hle
    rw [hlength] at hyields
    exact ⟨_, numbers_numbered h (by omega),
      rangeVisited_of_cursor (rangeCursor_eq_ok hlast hle) hyields⟩
  · exact rangeRefused_of_cursor (rangeCursor_of_le hlast)
  · exact rangeRefused_of_cursor (rangeCursor_of_lt hlast hlt)
  · refine ⟨_, numbers_numbered h (by omega), fun visit => ?_⟩
    unfold forEachWithIndex
    rw [(yields_indexedCursor h).drain.1]

/-- A range that starts inside a run and ends inside another, one that reaches too far and is reversed as
well, and one that is only reversed. -/
theorem access_by_ordinal_midRun :
    let b : Bag Nat := ⟨⟨#[12, 25, 31], #[2, 1, 3], .natural 0, 6⟩⟩
    b.WellFormed ∧ (∃ e, b.toList[4]? = some e ∧ b.get 4 = .ok e) ∧
      b.get 6 = .error (.indexOutOfRange 6 6) ∧
      (∃ pairs, b.Numbers 1 4 pairs ∧ b.RangeVisited 1 4 pairs) ∧
      b.RangeRefused 7 6 (.indexOutOfRange 6 6) ∧
      b.RangeRefused 3 1 (.invalidArgument "from" "from <= to") ∧
      ∃ pairs, b.Numbers 0 6 pairs := by
  intro b
  have hb : b.WellFormed := by decide
  obtain ⟨⟨hget, -⟩, hvisited, -, -, pairs, hall, -⟩ := access_by_ordinal hb 4 1 4
  obtain ⟨⟨-, hbehind⟩, -, hfar, -, -⟩ := access_by_ordinal hb 6 7 6
  obtain ⟨-, -, -, hreversed, -⟩ := access_by_ordinal hb 0 3 1
  exact ⟨hb, hget (by decide), hbehind (by decide), hvisited (by decide) (by decide),
    hfar (by decide), hreversed (by decide) (by decide), pairs, hall⟩

/-! ### Cursors -/

theorem numbered_eq_drop (b : Bag α) (first last : Nat) :
    b.numbered first (last + 1 - first) = (b.toList.zipIdx.take (last + 1)).drop first := by
  unfold numbered
  rw [List.drop_take, drop_zipIdx, Nat.zero_add]

theorem numbered_all (h : b.SoundIn c) : b.numbered 0 b.size = b.toList.zipIdx := by
  unfold numbered
  rw [List.drop_zero, ← length_toList h.wellFormed]
  exact List.take_of_length_le (by rw [List.length_zipIdx])

/-- **Cursors walk.**  Whatever steps are taken on a cursor of a sound bag, in whatever order, it answers
as a walk over a list does: the expanded sequence, the runs, the numbered sequence, or the part of that
which a range cuts out. -/
theorem cursors_walk (hb : b.WellFormed) (first last : Nat) :
    Cursor.WalksOver b.elementCursor b.toList ∧
    Cursor.WalksOver b.runCursor b.entries ∧
    Cursor.WalksOver b.indexedCursor b.toList.zipIdx ∧
    ∀ cursor, b.rangeCursor first last = .ok cursor →
      Cursor.WalksOver cursor ((b.toList.zipIdx.take (last + 1)).drop first) := by
  have h := hb.soundIn
  have hindexed := yields_indexedCursor h
  rw [numbered_all h] at hindexed
  refine ⟨(ElementCursor.yields_start h.tallied).walksOver, (RunCursor.yields_start h.balanced).walksOver,
    hindexed.walksOver, fun cursor hcursor => ?_⟩
  by_cases hlast : last < b.size
  · by_cases hle : first ≤ last
    · rw [rangeCursor_eq_ok hlast hle] at hcursor
      obtain rfl := Except.ok.inj hcursor
      rw [← numbered_eq_drop]
      exact (yields_rangeCursor h hlast hle).walksOver
    · rw [rangeCursor_of_lt hlast (Nat.lt_of_not_le hle)] at hcursor
      cases hcursor
  · rw [rangeCursor_of_le (Nat.le_of_not_lt hlast)] at hcursor
    cases hcursor

/-- Steps of all kinds, across runs and past the end, and a range from inside a run into another. -/
theorem cursors_walk_midRun :
    let b : Bag Nat := ⟨⟨#[12, 25, 31], #[2, 1, 3], .natural 0, 6⟩⟩
    b.WellFormed ∧
    Cursor.run b.elementCursor [.nth 2, .bounds, .fork, .remove, .nth 5, .next] =
      [.item (some 25), .bounds 3 3, .items [31, 31, 31],
        .removal (.error (.unsupported "remove through a bag iterator")), .item none, .item none] ∧
    Cursor.run b.runCursor [.next, .rest, .next] =
      [.item (some (12, 2)), .items [(25, 1), (31, 3)], .item none] ∧
    Cursor.run b.indexedCursor [.nth 4, .length] = [.item (some (31, 4)), .length 1] ∧
    ∃ cursor, b.rangeCursor 1 4 = .ok cursor ∧
      Cursor.run cursor [.next, .length, .rest, .next] =
        [.item (some (12, 1)), .length 3, .items [(25, 2), (31, 3), (31, 4)], .item none] := by
  intro b
  have hb : b.WellFormed := by decide
  obtain ⟨helements, hruns, hindexed, hrange⟩ := cursors_walk hb 1 4
  exact ⟨hb, helements.run_eq _, hruns.run_eq _, hindexed.run_eq _, _, rfl,
    (hrange _ rfl).run_eq _⟩

end Bag

end SortedMultiset
