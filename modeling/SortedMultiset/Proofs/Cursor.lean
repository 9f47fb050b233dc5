import SortedMultiset.Cursor.Element
import SortedMultiset.Cursor.Range
import SortedMultiset.Cursor.Run
import SortedMultiset.Proofs.Columns.Balanced

/-!
# What cursors yield

A cursor *yields* a list if the items of the list come one after the other, with the number of those to
come exact at every place, and nothing comes after them (`Cursor.Yields`).  Cursors do not compare, so no
order is involved.  On balanced columns without empty runs (`Columns.Tallied`):

* `ElementCursor.yields_start`: the cursor over the expanded sequence yields it;
* `RunCursor.yields_start`: the cursor over the runs yields them;
* `RangeCursor.yields_of_run`: a cursor over ordinals that stands in a run yields what is left of the run
  and the runs behind it, numbered, up to its stop.

The cursors keep several counters each, and a cursor is where its counters agree: the slot is the number
of runs before the current one, and what is left of that run and the runs behind it are as many items as
there are to come.
-/

namespace SortedMultiset

/-- The items that a cursor has still to yield, in order. -/
inductive Cursor.Yields {κ ι : Type} [Cursor κ ι] : κ → List ι → Prop
  | done {c : κ} : next? c = none → remaining c = 0 → Yields c []
  | item {c c' : κ} {a : ι} {items : List ι} :
    next? c = some (a, c') → remaining c = items.length + 1 → Yields c' items →
      Yields c (a :: items)

namespace Cursor.Yields

variable {κ ι : Type} [Cursor κ ι] {c c' : κ} {a : ι} {items : List ι}

theorem remaining_eq (h : Yields c items) : remaining c = items.length := by
  cases h with
  | done _ hremaining => exact hremaining
  | item _ hremaining _ => exact hremaining

/-- A cursor with no next item has none to yield. -/
theorem of_none (h : Yields c items) (hnext : next? c = none) : items = [] := by
  cases h with
  | done _ _ => rfl
  | item hitem _ _ => cases hnext.symm.trans hitem

/-- The next item is the first, and the others come after it. -/
theorem of_some (h : Yields c items) (hnext : next? c = some (a, c')) :
    ∃ rest, items = a :: rest ∧ Yields c' rest := by
  cases h with
  | done hdone _ => cases hnext.symm.trans hdone
  | item hitem _ htail =>
    cases hnext.symm.trans hitem
    exact ⟨_, rfl, htail⟩

/-- Cursors that go on alike yield alike. -/
theorem congr (h : Yields c' items) (hnext : next? c = next? c')
    (hremaining : remaining c = remaining c') : Yields c items := by
  cases h with
  | done hdone hzero => exact .done (hnext.trans hdone) (hremaining.trans hzero)
  | item hitem hlength htail => exact .item (hnext.trans hitem) (hremaining.trans hlength) htail

end Cursor.Yields

/-! ### The expanded sequence -/

namespace ElementCursor

variable {α : Type} {t : Columns α} {r : α × Nat} {pre post : List (α × Nat)}

/-- Inside a run, the next item is another occurrence. -/
theorem next?_of_left (he : t.entries = pre ++ r :: post) (left n : Nat) :
    next? ⟨t, pre.length, left + 1, left + 1 + n⟩ = some (r.1, ⟨t, pre.length, left, left + n⟩) := by
  have hremaining : left + 1 + n - 1 = left + n := by omega
  unfold next?
  dsimp only
  rw [if_neg (Nat.succ_ne_zero left), Columns.getElem?_elements he, hremaining]
  rfl

/-- After a run, the next item is the first occurrence of the run behind it. -/
theorem next?_of_used {e : α} {left : Nat}
    (he : t.entries = pre ++ r :: (e, left + 1) :: post) (n : Nat) :
    next? ⟨t, pre.length, 0, left + 1 + n⟩ =
      some (e, ⟨t, (pre ++ [r]).length, left, left + n⟩) := by
  have he' : t.entries = (pre ++ [r]) ++ (e, left + 1) :: post :=
    he.trans (List.append_cons _ _ _)
  have hslot : (pre ++ [r]).length = pre.length + 1 := List.length_append
  have helement := Columns.getElem?_elements he'
  have hcount := Columns.getD_counts he'
  have hlt : pre.length + 1 < t.elements.size := by
    rw [← hslot]
    exact (Array.getElem?_eq_some_iff.mp helement).1
  have hremaining : left + 1 + n - 1 = left + n := by omega
  unfold next?
  dsimp only
  rw [if_pos rfl, if_pos hlt, ← hslot, helement, hcount, hremaining]
  rfl

/-- After the last run, there is nothing. -/
theorem next?_of_last (h : t.Balanced) (he : t.entries = pre ++ [r]) :
    next? ⟨t, pre.length, 0, 0⟩ = none := by
  have hsize : t.elements.size = pre.length + 1 := Columns.elements_size_append h.length_eq he
  unfold next?
  rw [if_pos rfl, hsize, if_neg (Nat.lt_irrefl _)]

/-- The occurrences that are left of a run come before what comes when it is used up. -/
theorem yields_left (he : t.entries = pre ++ r :: post) {items : List α}
    (hused : Cursor.Yields (⟨t, pre.length, 0, items.length⟩ : ElementCursor α) items)
    (left : Nat) :
    Cursor.Yields (⟨t, pre.length, left, left + items.length⟩ : ElementCursor α)
      (List.replicate left r.1 ++ items) := by
  induction left with
  | zero =>
    rw [Nat.zero_add]
    exact hused
  | succ left ih =>
    have hlength : left + 1 + items.length = (List.replicate left r.1 ++ items).length + 1 := by
      rw [List.length_append, List.length_replicate, Nat.add_right_comm]
    exact .item (next?_of_left he left items.length) hlength ih

/-- When a run is used up, the runs behind it come. -/
theorem yields_used (h : t.Tallied) (he : t.entries = pre ++ r :: post) :
    Cursor.Yields (⟨t, pre.length, 0, (expand post).length⟩ : ElementCursor α) (expand post) := by
  induction post generalizing pre r with
  | nil => exact .done (next?_of_last h.toBalanced he) rfl
  | cons s post ih =>
    have he' : t.entries = (pre ++ [r]) ++ s :: post := he.trans (List.append_cons _ _ _)
    have hpos : 0 < s.2 := h.pos_of_entries he'
    match s, hpos with
    | (e, left + 1), _ =>
      have hremaining : left + 1 + (expand post).length =
          (List.replicate left e ++ expand post).length + 1 := by
        rw [List.length_append, List.length_replicate, Nat.add_right_comm]
      have hitem := Cursor.Yields.item (next?_of_used he (expand post).length) hremaining
        (yields_left he' (ih he') left)
      rwa [expand_cons, List.length_append, List.length_replicate]

/-- **The cursor over the expanded sequence** yields it. -/
theorem yields_start (h : t.Tallied) : Cursor.Yields (start t) (expand t.entries) := by
  unfold start
  rw [← h.total_entries, ← length_expand]
  cases he : t.entries with
  | nil =>
    have hsize : t.elements.size = 0 := by
      rw [← Columns.length_entries h.length_eq, he]
      rfl
    have hlength := h.length_eq
    have hcount : t.counts.getD 0 0 = 0 := by
      rw [Array.getD_eq_getD_getElem?, Array.getElem?_eq_none (by omega)]
      rfl
    refine .done ?_ rfl
    show next? _ = none
    unfold next?
    dsimp only
    rw [if_pos hcount, hsize]
    rfl
  | cons r post =>
    have he' : t.entries = [] ++ r :: post := he
    have hcount : t.counts.getD 0 0 = r.2 := Columns.getD_counts he'
    rw [hcount, expand_cons, List.length_append, List.length_replicate]
    exact yields_left he' (yields_used h he') r.2

end ElementCursor

/-! ### The runs -/

namespace RunCursor

variable {α : Type} {t : Columns α} {r : α × Nat} {pre post : List (α × Nat)}

/-- Between two runs, the next item is the second. -/
theorem next?_of_entries (he : t.entries = pre ++ r :: post) :
    next? ⟨t, pre.length⟩ = some (r, ⟨t, (pre ++ [r]).length⟩) := by
  unfold next?
  dsimp only
  rw [Columns.getElem?_elements he, Columns.getD_counts he, List.length_append]
  rfl

theorem getElem?_end (h : t.Balanced) (he : t.entries = pre ++ []) :
    t.elements[pre.length]? = none := by
  rw [← Array.getElem?_toList, ← Columns.map_fst_entries h.length_eq, he]
  simp

/-- Behind the last run, there is nothing. -/
theorem next?_end (h : t.Balanced) (he : t.entries = pre ++ []) :
    next? (⟨t, pre.length⟩ : RunCursor α) = none := by
  unfold next?
  rw [getElem?_end h he]
  rfl

/-- Between two runs, those behind are to come. -/
theorem yields_from (h : t.Balanced) (he : t.entries = pre ++ post) :
    Cursor.Yields (⟨t, pre.length⟩ : RunCursor α) post := by
  have hsize := Columns.elements_size_append h.length_eq he
  have hremaining : Cursor.remaining (⟨t, pre.length⟩ : RunCursor α) = post.length := by
    show t.elements.size - pre.length = post.length
    omega
  induction post generalizing pre with
  | nil => exact .done (next?_end h he) hremaining
  | cons r post ih =>
    have he' : t.entries = (pre ++ [r]) ++ post := he.trans (List.append_cons _ _ _)
    have hslot : (pre ++ [r]).length = pre.length + 1 := List.length_append
    rw [List.length_cons] at hsize
    refine .item (next?_of_entries he) hremaining (ih he' (by omega) ?_)
    show t.elements.size - (pre ++ [r]).length = post.length
    omega

/-- **The cursor over the runs** yields them. -/
theorem yields_start (h : t.Balanced) : Cursor.Yields (start t) t.entries := by
  have he : t.entries = [] ++ t.entries := rfl
  exact yields_from h he

end RunCursor

/-! ### Ranges of ordinals -/

namespace RangeCursor

variable {α : Type} {t : Columns α} {r s : α × Nat} {pre post : List (α × Nat)} {ordinal stop : Nat}

/-- At the end of the range, there is nothing. -/
theorem next?_of_stop (h : stop ≤ ordinal) (slot left : Nat) :
    next? (⟨t, slot, left, ordinal, stop⟩ : RangeCursor α) = none :=
  if_neg (Nat.not_lt.mpr h)

/-- Inside a run, the next item is another occurrence. -/
theorem next?_of_left (he : t.entries = pre ++ r :: post) (hlt : ordinal < stop)
    (left : Nat) :
    next? ⟨t, pre.length, left + 1, ordinal, stop⟩ =
      some ((r.1, ordinal), ⟨t, pre.length, left, ordinal + 1, stop⟩) := by
  unfold next?
  dsimp only
  rw [if_pos hlt, if_neg (Nat.succ_ne_zero left), if_neg (Nat.succ_ne_zero left),
    Columns.getElem?_elements he]
  rfl

/-- After a run, the cursor goes on as at the start of the run behind it. -/
theorem next?_of_used (h : t.Tallied) (he : t.entries = pre ++ r :: s :: post) :
    next? ⟨t, pre.length, 0, ordinal, stop⟩ = next? ⟨t, (pre ++ [r]).length, s.2, ordinal, stop⟩ := by
  have he' : t.entries = (pre ++ [r]) ++ s :: post := he.trans (List.append_cons _ _ _)
  have hslot : (pre ++ [r]).length = pre.length + 1 := List.length_append
  have hpos : s.2 ≠ 0 := Nat.ne_of_gt (h.pos_of_entries he')
  have hcount := Columns.getD_counts he'
  rw [hslot] at hcount ⊢
  unfold next?
  dsimp only
  rw [if_pos rfl, if_pos rfl, if_neg hpos, if_neg hpos, hcount]

/-- **A cursor that stands in a run** yields what is left of it and the runs behind it, numbered, up to
its stop. -/
theorem yields_of_run (h : t.Tallied) (he : t.entries = pre ++ r :: post) {left : Nat}
    (hstop : stop ≤ ordinal + left + total post) :
    Cursor.Yields (⟨t, pre.length, left, ordinal, stop⟩ : RangeCursor α)
      (((List.replicate left r.1 ++ expand post).zipIdx ordinal).take (stop - ordinal)) := by
  -- on the number of items to come; what is used up of a run decides which run the next is of
  induction hn : stop - ordinal generalizing pre r post left ordinal with
  | zero => exact .done (next?_of_stop (by omega) _ _) hn
  | succ n ih =>
    have hlt : ordinal < stop := by omega
    have hinside : ∀ {pre post : List (α × Nat)} {r : α × Nat} {left : Nat},
        t.entries = pre ++ r :: post → stop ≤ ordinal + (left + 1) + total post →
        Cursor.Yields (⟨t, pre.length, left + 1, ordinal, stop⟩ : RangeCursor α)
          (((List.replicate (left + 1) r.1 ++ expand post).zipIdx ordinal).take (n + 1)) := by
      intro pre post r left he hstop
      have htail : Cursor.Yields (⟨t, pre.length, left, ordinal + 1, stop⟩ : RangeCursor α)
          (((List.replicate left r.1 ++ expand post).zipIdx (ordinal + 1)).take n) :=
        ih he (by omega) (by omega)
      rw [List.replicate_succ, List.cons_append, List.zipIdx_cons, List.take_succ_cons]
      refine .item (next?_of_left he hlt left) ?_ htail
      have hrest : stop - (ordinal + 1) = _ := htail.remaining_eq
      show stop - ordinal = _
      omega
    cases left with
    | succ left => exact hinside he hstop
    | zero =>
      cases post with
      | nil =>
        rw [total_nil] at hstop
        omega
      | cons s post =>
        have he' : t.entries = (pre ++ [r]) ++ s :: post := he.trans (List.append_cons _ _ _)
        have hpos : 0 < s.2 := h.pos_of_entries he'
        obtain ⟨left, hleft⟩ : ∃ left, s.2 = left + 1 := ⟨s.2 - 1, by omega⟩
        rw [total_cons] at hstop
        have hbehind := hinside he' (show stop ≤ ordinal + (left + 1) + total post by omega)
        rw [← hleft] at hbehind
        rw [List.replicate_zero, List.nil_append, expand_cons]
        exact hbehind.congr (next?_of_used h he) rfl

end RangeCursor

end SortedMultiset
