import SortedMultiset.Proofs.Checked.Builder
import SortedMultiset.Proofs.Walk

/-!
# Cursors on words

A cursor trusts its counters.  When a run is used up it reads the count of the next slot and takes one
from it, with nothing that looks whether there is a next slot or a count to take from.  Where a cursor
*stands* says why that is safe: at a slot of the columns, with at most as many occurrences left as there
are in what is behind it (`ElementCursor.Stands`, `RunCursor.Stands`, `RangeCursor.Stands`).

A cursor stands somewhere at the start, and still does after an item (`Cursor.after_induction` carries
this over to steps of all kinds).  From where it stands, the next item is found on words as it is on
numbers.
-/

namespace SortedMultiset

/-! ### States after steps -/

namespace Cursor

variable {κ ι : Type} [Cursor κ ι] {P : κ → Prop} {c : κ}

/-- What holds of a cursor as long as items are taken from it. -/
def Kept (P : κ → Prop) : Prop := ∀ c a c', P c → next? c = some (a, c') → P c'

theorem Kept.advance (hP : Kept P) (h : P c) : P (advance c).2 := by
  unfold Cursor.advance
  cases hnext : next? c with
  | none => exact h
  | some item => exact hP c item.1 item.2 h hnext

theorem Kept.nth (hP : Kept P) (h : P c) (k : Nat) : P (nth k c).2 := by
  induction k generalizing c with
  | zero => exact hP.advance h
  | succ k ih =>
    unfold Cursor.nth
    cases hnext : next? c with
    | none => exact h
    | some item => exact ih (hP c item.1 item.2 h hnext)

theorem Kept.drainUpTo (hP : Kept P) (h : P c) (n : Nat) : P (drainUpTo n c).2 := by
  induction n generalizing c with
  | zero => exact h
  | succ n ih =>
    unfold Cursor.drainUpTo
    cases hnext : next? c with
    | none => exact h
    | some item => exact ih (hP c item.1 item.2 h hnext)

theorem Kept.answer (hP : Kept P) (h : P c) (s : Step) : P (answer c s).2 := by
  cases s with
  | next => exact hP.advance h
  | nth k => exact hP.nth h k
  | rest => exact hP.drainUpTo h _
  | length => exact h
  | bounds => exact h
  | fork => exact h
  | remove => exact h

/-- **What an item does not change, no steps change.** -/
theorem after_induction (hP : Kept P) (h : P c) (steps : List Step) : P (after c steps) := by
  induction steps generalizing c with
  | nil => exact h
  | cons s steps ih => exact ih (hP.answer h s)

end Cursor

variable {α : Type} {t : Columns α} {c : Comparator α} {r s : α × Nat} {pre post : List (α × Nat)}
  {left ordinal stop : Nat}

namespace Columns

/-- A slot can be numbered, and so can the place behind it. -/
theorem Fits.slot_lt (hfits : t.Fits) (h : t.SoundIn c) (he : t.entries = pre ++ post) :
    pre.length + 1 < wordSize := by
  refine hfits.addressable.lt ?_
  rw [h.length_eq, h.elements_size_append he]
  exact Nat.le_add_right _ _

theorem SoundIn.total_le (h : t.SoundIn c) (he : t.entries = pre ++ post) : total post ≤ t.size := by
  rw [h.size_eq_append he]
  exact Nat.le_add_left _ _

theorem SoundIn.index_counts (h : t.SoundIn c) (he : t.entries = pre ++ r :: post) :
    Checked.index t.counts pre.length = .ok r.2 := by
  have hlt : pre.length < t.counts.size := by
    rw [h.length_eq, h.elements_size_append he, List.length_cons]
    omega
  rw [Checked.index_eq_getD hlt 0, Columns.getD_counts he]

theorem index_elements (he : t.entries = pre ++ r :: post) :
    Checked.index t.elements pre.length = .ok r.1 :=
  Checked.index_eq (getElem?_elements he)

/-- The slot from which the next item comes, and how many occurrences of it are left: when a run is used
up, the count of the next slot is loaded. -/
def checkedReload (t : Columns α) (slot left : Nat) : Checked (Nat × Nat) :=
  if left = 0 then do
    let slot ← Checked.add slot 1
    let left ← Checked.index t.counts slot
    return (slot, left)
  else return (slot, left)

theorem checkedReload_left (t : Columns α) (slot left : Nat) :
    t.checkedReload slot (left + 1) = .ok (slot, left + 1) :=
  if_neg (Nat.succ_ne_zero left)

theorem Fits.checkedReload_used (hfits : t.Fits) (h : t.SoundIn c)
    (he : t.entries = pre ++ r :: s :: post) :
    t.checkedReload pre.length 0 = .ok ((pre ++ [r]).length, s.2) := by
  have he' : t.entries = (pre ++ [r]) ++ s :: post := he.trans (List.append_cons _ _ _)
  have hcount := h.index_counts he'
  rw [List.length_append] at hcount ⊢
  rw [checkedReload, if_pos rfl, Checked.add_eq (hfits.slot_lt h he), Checked.ok_bind]
  exact congrArg (· >>= _) hcount

end Columns

open Checked (ok_bind add_eq sub_eq)

/-! ### The expanded sequence -/

namespace ElementCursor

/-- The next element. -/
def checkedNext (c : ElementCursor α) : Checked (Option (α × ElementCursor α)) := do
  let behind ← Checked.add c.slot 1
  if behind < c.columns.elements.size ∨ c.left ≠ 0 then
    let (slot, left) ← c.columns.checkedReload c.slot c.left
    let left ← Checked.sub left 1
    let remaining ← Checked.sub c.remaining 1
    let e ← Checked.index c.columns.elements slot
    return some (e, { c with slot, left, remaining })
  else return none

/-- Where a cursor over the expanded sequence can stand. -/
inductive Stands (t : Columns α) : ElementCursor α → Prop
  /-- There are no runs. -/
  | nowhere : t.entries = [] → Stands t ⟨t, 0, 0, 0⟩
  /-- In a run, of which some occurrences are left. -/
  | inRun {pre post : List (α × Nat)} {r : α × Nat} (left : Nat) :
    t.entries = pre ++ r :: post → Stands t ⟨t, pre.length, left, left + total post⟩

theorem stands_start (h : t.SoundIn c) : Stands t (start t) := by
  unfold start
  rw [← h.total_entries]
  cases he : t.entries with
  | nil =>
    have hsize : t.counts.size = 0 := by
      rw [h.length_eq, h.elements_size, he]
      rfl
    rw [Array.getD_eq_getD_getElem?, Array.getElem?_eq_none (by omega)]
    exact .nowhere he
  | cons r post =>
    have he' : t.entries = [] ++ r :: post := he
    have hcount : t.counts.getD 0 0 = r.2 := Columns.getD_counts he'
    rw [hcount, total_cons]
    exact .inRun r.2 he'

/-- Behind a used run stands one that is not empty. -/
theorem next?_behind (h : t.SoundIn c) (he : t.entries = pre ++ r :: s :: post) :
    next? ⟨t, pre.length, 0, 0 + total (s :: post)⟩ =
      some (s.1, ⟨t, (pre ++ [r]).length, s.2 - 1, s.2 - 1 + total post⟩) := by
  have he' : t.entries = (pre ++ [r]) ++ s :: post := he.trans (List.append_cons _ _ _)
  have hpos : 0 < s.2 := h.tallied.pos_of_entries he'
  match s, hpos with
  | (e, left + 1), _ =>
    rw [total_cons, Nat.zero_add]
    exact next?_of_used he (total post)

theorem kept_stands (h : t.SoundIn c) : Cursor.Kept (Stands t) := by
  rintro _ a _ (he | @⟨pre, post, r, left, he⟩) hnext
  · have hsize : t.elements.size = 0 := by
      rw [h.elements_size, he]
      rfl
    have hnone : next? (⟨t, 0, 0, 0⟩ : ElementCursor α) = none := by
      unfold next?
      rw [if_pos rfl, hsize]
      rfl
    cases hnext.symm.trans hnone
  · cases left with
    | succ left =>
      cases hnext.symm.trans (next?_of_left he left (total post))
      exact .inRun left he
    | zero =>
      cases post with
      | nil => cases hnext.symm.trans (next?_of_last h.balanced he)
      | cons s post =>
        cases hnext.symm.trans (next?_behind h he)
        exact .inRun _ (he.trans (List.append_cons _ _ _))

/-- **From where it stands, the cursor goes on.** -/
theorem Stands.checkedNext_eq {cursor : ElementCursor α} (hstands : Stands t cursor)
    (h : t.SoundIn c) (hfits : t.Fits) : cursor.checkedNext = .ok cursor.next? := by
  cases hstands with
  | nowhere he =>
    have hsize : t.elements.size = 0 := by
      rw [h.elements_size, he]
      rfl
    have hslot : 0 + 1 < wordSize := by decide
    unfold checkedNext next?
    dsimp only
    rw [add_eq hslot, ok_bind, hsize]
    rfl
  | @inRun pre post r left he =>
    have hslot := hfits.slot_lt h he
    unfold checkedNext
    dsimp only
    rw [add_eq hslot, ok_bind]
    cases left with
    | succ left =>
      have hremaining : left + 1 + total post - 1 = left + total post := by omega
      rw [next?_of_left he, if_pos (Or.inr (Nat.succ_ne_zero left)), t.checkedReload_left, ok_bind,
        sub_eq (Nat.le_add_left 1 left), ok_bind, sub_eq (by omega), ok_bind, Columns.index_elements he,
        hremaining]
      rfl
    | zero =>
      have hlength := h.elements_size_append he
      cases post with
      | nil =>
        rw [show 0 + total ([] : List (α × Nat)) = 0 from rfl, next?_of_last h.balanced he, hlength,
          if_neg (by simp)]
        rfl
      | cons s post =>
        have he' : t.entries = (pre ++ [r]) ++ s :: post := he.trans (List.append_cons _ _ _)
        have hpos : 0 < s.2 := h.tallied.pos_of_entries he'
        have hremaining : 0 + total (s :: post) - 1 = s.2 - 1 + total post := by
          rw [total_cons]
          omega
        have hbehind : pre.length + 1 < t.elements.size := by
          rw [hlength, List.length_cons, List.length_cons]
          omega
        rw [next?_behind h he, if_pos (Or.inl hbehind), hfits.checkedReload_used h he, ok_bind,
          sub_eq hpos, ok_bind, sub_eq (by rw [total_cons]; omega), ok_bind, Columns.index_elements he',
          hremaining]
        rfl

end ElementCursor

/-! ### The runs -/

namespace RunCursor

/-- The next run. -/
def checkedNext (c : RunCursor α) : Checked (Option ((α × Nat) × RunCursor α)) :=
  match c.columns.elements[c.slot]? with
  | none => return none
  | some e => do
    let count ← Checked.index c.columns.counts c.slot
    let slot ← Checked.add c.slot 1
    return some ((e, count), { c with slot })

/-- What was yielded is not to come again. -/
theorem remaining_lt_of_checkedNext {cursor next : RunCursor α}
    (hnext : cursor.checkedNext = .ok (some (r, next))) :
    Cursor.remaining next < Cursor.remaining cursor := by
  unfold checkedNext at hnext
  split at hnext
  · cases hnext
  · next e he =>
    have hslot := (Array.getElem?_eq_some_iff.mp he).1
    cases hcount : Checked.index cursor.columns.counts cursor.slot with
    | error fault =>
      rw [hcount] at hnext
      cases hnext
    | ok count =>
      cases hadd : Checked.add cursor.slot 1 with
      | error fault =>
        rw [hcount, hadd] at hnext
        cases hnext
      | ok slot =>
        rw [hcount, hadd] at hnext
        cases hnext
        have hslot' := Checked.eq_of_add_eq_ok hadd
        show cursor.columns.elements.size - slot < cursor.columns.elements.size - cursor.slot
        omega

/-- How many runs are to come. -/
def checkedRemaining (c : RunCursor α) : Checked Nat :=
  Checked.sub c.columns.elements.size c.slot

/-- Where a cursor over the runs can stand. -/
inductive Stands (t : Columns α) : RunCursor α → Prop
  /-- Between two runs, or at an end. -/
  | between {pre post : List (α × Nat)} : t.entries = pre ++ post → Stands t ⟨t, pre.length⟩

theorem stands_start (t : Columns α) : Stands t (start t) := by
  have he : t.entries = [] ++ t.entries := rfl
  exact .between he

theorem kept_stands (h : t.SoundIn c) : Cursor.Kept (Stands t) := by
  rintro _ a _ ⟨he⟩ hnext
  rename_i pre post
  cases post with
  | nil => cases hnext.symm.trans (next?_end h.balanced he)
  | cons r post =>
    cases hnext.symm.trans (next?_of_entries he)
    exact .between (he.trans (List.append_cons _ _ _))

/-- **From where it stands, the cursor goes on.** -/
theorem Stands.checkedNext_eq {cursor : RunCursor α} (hstands : Stands t cursor) (h : t.SoundIn c)
    (hfits : t.Fits) : cursor.checkedNext = .ok cursor.next? := by
  obtain @⟨pre, post, he⟩ := hstands
  unfold checkedNext
  cases post with
  | nil =>
    dsimp only
    rw [next?_end h.balanced he, getElem?_end h.balanced he]
    rfl
  | cons r post =>
    dsimp only
    rw [Columns.getElem?_elements he]
    dsimp only
    rw [h.index_counts he, ok_bind, add_eq (hfits.slot_lt h he), next?_of_entries he,
      List.length_append]
    rfl

theorem Stands.checkedRemaining_eq {cursor : RunCursor α} (hstands : Stands t cursor)
    (h : t.SoundIn c) : cursor.checkedRemaining = .ok (Cursor.remaining cursor) := by
  obtain @⟨pre, post, he⟩ := hstands
  refine sub_eq ?_
  show pre.length ≤ t.elements.size
  rw [h.elements_size_append he]
  exact Nat.le_add_right _ _

end RunCursor

/-! ### Ranges of ordinals -/

namespace RangeCursor

/-- The start of the range of ordinals from `first` to before `stop`. -/
def checkedStart (t : Columns α) (p : Position) (first stop : Nat) : Checked (RangeCursor α) :=
  match t.counts[p.slot]? with
  | none => return ⟨t, p.slot, 0, first, stop⟩
  | some count => do
    let left ← Checked.sub count p.offset
    return ⟨t, p.slot, left, first, stop⟩

/-- The next element, with its ordinal. -/
def checkedNext (c : RangeCursor α) : Checked (Option ((α × Nat) × RangeCursor α)) :=
  if c.stop ≤ c.ordinal then return none
  else do
    let (slot, left) ← c.columns.checkedReload c.slot c.left
    let left ← Checked.sub left 1
    let ordinal ← Checked.add c.ordinal 1
    let e ← Checked.index c.columns.elements slot
    return some ((e, c.ordinal), { c with slot, left, ordinal })

/-- Where a cursor over a range of ordinals can stand. -/
inductive Stands (t : Columns α) : RangeCursor α → Prop
  /-- At the end of the range. -/
  | atEnd {slot left ordinal stop : Nat} : stop ≤ ordinal → Stands t ⟨t, slot, left, ordinal, stop⟩
  /-- In a run, with enough elements behind to reach the end. -/
  | inRun {pre post : List (α × Nat)} {r : α × Nat} {left ordinal stop : Nat} :
    t.entries = pre ++ r :: post → stop ≤ ordinal + left + total post → stop < wordSize →
      Stands t ⟨t, pre.length, left, ordinal, stop⟩

theorem checkedStart_eq {p : Position} {first : Nat} (hoffset : p.offset ≤ t.counts.getD p.slot 0) :
    checkedStart t p first stop = .ok (start t p first stop) := by
  unfold checkedStart start
  rw [Array.getD_eq_getD_getElem?] at hoffset ⊢
  cases hcount : t.counts[p.slot]? with
  | none =>
    dsimp only
    rw [Option.getD_none, Nat.zero_sub]
    rfl
  | some count =>
    rw [hcount, Option.getD_some] at hoffset
    dsimp only
    rw [sub_eq hoffset]
    rfl

theorem kept_stands (h : t.SoundIn c) : Cursor.Kept (Stands t) := by
  rintro _ a _ (hover | @⟨pre, post, r, left, ordinal, stop, he, hstop, hword⟩) hnext
  · cases hnext.symm.trans (next?_of_stop hover _ _)
  by_cases hlt : ordinal < stop
  · cases left with
    | succ left =>
      cases hnext.symm.trans (next?_of_left he hlt left)
      exact .inRun he (by omega) hword
    | zero =>
      cases post with
      | nil =>
        rw [total_nil] at hstop
        omega
      | cons s post =>
        have he' : t.entries = (pre ++ [r]) ++ s :: post := he.trans (List.append_cons _ _ _)
        have hpos : 0 < s.2 := h.tallied.pos_of_entries he'
        obtain ⟨left, hleft⟩ : ∃ left, s.2 = left + 1 := ⟨s.2 - 1, by omega⟩
        rw [total_cons] at hstop
        have hbehind := next?_of_left he' hlt left
        rw [← hleft, ← next?_of_used h.tallied he] at hbehind
        cases hnext.symm.trans hbehind
        exact .inRun he' (by omega) hword
  · cases hnext.symm.trans (next?_of_stop (Nat.le_of_not_lt hlt) _ _)

/-- **From where it stands, the cursor goes on.** -/
theorem Stands.checkedNext_eq {cursor : RangeCursor α} (hstands : Stands t cursor)
    (h : t.SoundIn c) (hfits : t.Fits) : cursor.checkedNext = .ok cursor.next? := by
  cases hstands with
  | atEnd hover =>
    rw [next?_of_stop hover]
    exact if_pos hover
  | @inRun pre post r left ordinal stop he hstop hword =>
    by_cases hover : stop ≤ ordinal
    · rw [next?_of_stop hover]
      exact if_pos hover
    have hlt := Nat.lt_of_not_le hover
    have hordinal : ordinal + 1 < wordSize := by omega
    unfold checkedNext
    dsimp only
    rw [if_neg hover]
    cases left with
    | succ left =>
      rw [next?_of_left he hlt, t.checkedReload_left, ok_bind, sub_eq (Nat.le_add_left 1 left),
        ok_bind, add_eq hordinal, ok_bind, Columns.index_elements he]
      rfl
    | zero =>
      cases post with
      | nil =>
        rw [total_nil] at hstop
        omega
      | cons s post =>
        have he' : t.entries = (pre ++ [r]) ++ s :: post := he.trans (List.append_cons _ _ _)
        have hpos : 0 < s.2 := h.tallied.pos_of_entries he'
        obtain ⟨left, hleft⟩ : ∃ left, s.2 = left + 1 := ⟨s.2 - 1, by omega⟩
        have hbehind := next?_of_left he' hlt left
        rw [← hleft, ← next?_of_used h.tallied he] at hbehind
        rw [hbehind, hfits.checkedReload_used h he, ok_bind, hleft, sub_eq (Nat.le_add_left 1 left),
          ok_bind, add_eq hordinal, ok_bind, Columns.index_elements he']
        rfl

end RangeCursor

end SortedMultiset
