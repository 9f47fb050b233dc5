import SortedMultiset.Proofs.Cursor

/-!
# Cursors as walks over lists

What a cursor answers to a step, and where it stands afterwards, is told by the list that it yields.  For
one step that is `Cursor.walkStep`, written on lists with no cursor in it, and `Cursor.Yields.answer` says
that the cursor follows it: it gives the answer of the list and yields what is left of the list.  So it
follows the walk through any sequence of steps (`Cursor.Yields.run`).

What can be said of a walk holds of the cursor: at every place the bounds are exact, a fork has all that
is left and does not move the cursor, and neither does a removal, which is refused; after an item was
missing, none comes any more (`Cursor.Yields.walksOver`).
-/

namespace SortedMultiset.Cursor

variable {κ ι : Type} {items : List ι}

/-! ### Walks over lists -/

/-- The answer of a list to one step, and what is left of the list. -/
def walkStep (items : List ι) : Step → Answer ι × List ι
  | .next => (.item items.head?, items.tail)
  | .length => (.length items.length, items)
  | .bounds => (.bounds items.length items.length, items)
  | .nth k => (.item items[k]?, items.drop (k + 1))
  | .fork => (.items items, items)
  | .rest => (.items items, [])
  | .remove => (.removal (.error (.unsupported "remove through a bag iterator")), items)

/-- The answers of a list to steps that are taken one after the other. -/
def walk (items : List ι) : List Step → List (Answer ι)
  | [] => []
  | s :: steps => (walkStep items s).1 :: walk (walkStep items s).2 steps

/-- What is left of a list after steps. -/
def walkRest (items : List ι) (steps : List Step) : List ι :=
  steps.foldl (fun items s => (walkStep items s).2) items

theorem walkRest_append (items : List ι) (before later : List Step) :
    walkRest items (before ++ later) = walkRest (walkRest items before) later :=
  List.foldl_append

/-- Nothing is left when an item is missing. -/
theorem walkStep_missing {s : Step} (h : (walkStep items s).1 = .item none) :
    (walkStep items s).2 = [] := by
  cases s with
  | next =>
    have hhead : items.head? = none := Answer.item.inj h
    show items.tail = []
    rw [List.head?_eq_none_iff.mp hhead]
    rfl
  | nth k =>
    have hitem : items[k]? = none := Answer.item.inj h
    have hlength : items.length ≤ k := List.getElem?_eq_none_iff.mp hitem
    exact List.drop_of_length_le (by omega)
  | _ => cases h

theorem walkRest_nil (steps : List Step) : walkRest ([] : List ι) steps = [] := by
  induction steps with
  | nil => rfl
  | cons s steps ih =>
    have hstep : (walkStep ([] : List ι) s).2 = [] := by
      cases s with
      | nth k => exact List.drop_nil
      | _ => rfl
    show walkRest (walkStep [] s).2 steps = []
    rw [hstep, ih]

/-! ### Steps of a cursor -/

section Steps

variable [Cursor κ ι] {c : κ}

/-- The cursor after steps that are taken one after the other. -/
def after (c : κ) (steps : List Step) : κ := steps.foldl (fun c s => (answer c s).2) c

namespace Yields

theorem next (h : Yields c items) :
    (advance c).1 = items.head? ∧ Yields (advance c).2 items.tail := by
  unfold advance
  cases h with
  | done hnext hremaining =>
    rw [hnext]
    exact ⟨rfl, .done hnext hremaining⟩
  | item hnext _ htail =>
    rw [hnext]
    exact ⟨rfl, htail⟩

theorem nth (h : Yields c items) (k : Nat) :
    (Cursor.nth k c).1 = items[k]? ∧ Yields (Cursor.nth k c).2 (items.drop (k + 1)) := by
  induction k generalizing c items with
  | zero =>
    have hnext := h.next
    rw [← List.head?_eq_getElem?, Nat.zero_add, List.drop_one]
    exact hnext
  | succ k ih =>
    unfold Cursor.nth
    cases h with
    | done hnext hremaining =>
      rw [hnext]
      exact ⟨rfl, .done hnext hremaining⟩
    | item hnext _ htail =>
      rw [hnext]
      exact ih htail

theorem drainUpTo (h : Yields c items) (n : Nat) :
    (Cursor.drainUpTo n c).1 = items.take n ∧ Yields (Cursor.drainUpTo n c).2 (items.drop n) := by
  induction n generalizing c items with
  | zero => exact ⟨rfl, h⟩
  | succ n ih =>
    unfold Cursor.drainUpTo
    cases h with
    | done hnext hremaining =>
      rw [hnext]
      exact ⟨rfl, .done hnext hremaining⟩
    | @item _ _ a _ hnext _ htail =>
      rw [hnext]
      obtain ⟨hitems, hrest⟩ := ih htail
      exact ⟨congrArg (a :: ·) hitems, hrest⟩

/-- Draining stops where the items end, since their number is exact. -/
theorem drain (h : Yields c items) :
    (Cursor.drain c).1 = items ∧ Yields (Cursor.drain c).2 [] := by
  have hall := h.drainUpTo (remaining c)
  rw [h.remaining_eq, List.take_length, List.drop_length] at hall
  unfold Cursor.drain
  rw [h.remaining_eq]
  exact hall

/-- **One step of a cursor** is one step of the walk over the list that it yields. -/
theorem answer (h : Yields c items) (s : Step) :
    (Cursor.answer c s).1 = (walkStep items s).1 ∧
      Yields (Cursor.answer c s).2 (walkStep items s).2 := by
  have hremaining := h.remaining_eq
  cases s with
  | next => exact ⟨congrArg Answer.item h.next.1, h.next.2⟩
  | length => exact ⟨congrArg Answer.length hremaining, h⟩
  | bounds => exact ⟨congrArg (fun n => Answer.bounds n n) hremaining, h⟩
  | nth k => exact ⟨congrArg Answer.item (h.nth k).1, (h.nth k).2⟩
  | fork => exact ⟨congrArg Answer.items h.drain.1, h⟩
  | rest => exact ⟨congrArg Answer.items h.drain.1, h.drain.2⟩
  | remove => exact ⟨rfl, h⟩

/-- **A run of a cursor** is the walk over the list that it yields. -/
theorem run (h : Yields c items) (steps : List Step) :
    Cursor.run c steps = walk items steps ∧ Yields (after c steps) (walkRest items steps) := by
  induction steps generalizing c items with
  | nil => exact ⟨rfl, h⟩
  | cons s steps ih =>
    obtain ⟨hanswer, hrest⟩ := h.answer s
    obtain ⟨hanswers, hafter⟩ := ih hrest
    refine ⟨?_, hafter⟩
    show (Cursor.answer c s).1 :: Cursor.run (Cursor.answer c s).2 steps =
      (walkStep items s).1 :: walk (walkStep items s).2 steps
    rw [hanswer, hanswers]

end Yields

/-- A cursor that answers as a walk over a list does, wherever it stands. -/
structure WalksOver (c : κ) (items : List ι) : Prop where
  /-- Steps get the answers of the walk. -/
  run_eq : ∀ steps, run c steps = walk items steps
  /-- What is left of the list is what the cursor has still to yield. -/
  yields_after : ∀ steps, Yields (after c steps) (walkRest items steps)
  /-- The bounds meet at the number of items that are left. -/
  bounds_eq : ∀ steps, answer (after c steps) .bounds =
    (.bounds (walkRest items steps).length (walkRest items steps).length, after c steps)
  /-- A fork has all items that are left, and the cursor stays. -/
  fork_eq : ∀ steps, answer (after c steps) .fork = (.items (walkRest items steps), after c steps)
  /-- A removal is refused, and the cursor stays. -/
  remove_eq : ∀ steps, answer (after c steps) .remove =
    (.removal (.error (.unsupported "remove through a bag iterator")), after c steps)
  /-- After an item was missing, none comes any more. -/
  missing : ∀ before s later, (answer (after c before) s).1 = .item none →
    (answer (after c (before ++ s :: later)) .next).1 = .item none

/-- **A cursor walks over the list that it yields.** -/
theorem Yields.walksOver (h : Yields c items) : WalksOver c items := by
  have hafter : ∀ steps, Yields (after c steps) (walkRest items steps) := fun steps =>
    (h.run steps).2
  refine ⟨fun steps => (h.run steps).1, hafter, fun steps => ?_, fun steps => ?_, fun _ => rfl,
    fun before s later hmissing => ?_⟩
  · exact Prod.ext ((hafter steps).answer .bounds).1 rfl
  · exact Prod.ext ((hafter steps).answer .fork).1 rfl
  · rw [((hafter before).answer s).1] at hmissing
    have hrest : walkRest items (before ++ s :: later) = [] := by
      rw [walkRest_append]
      show walkRest (walkStep (walkRest items before) s).2 later = []
      rw [walkStep_missing hmissing, walkRest_nil]
    rw [((hafter (before ++ s :: later)).answer .next).1, hrest]
    rfl

end Steps

end SortedMultiset.Cursor
