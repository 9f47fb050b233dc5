import SortedMultiset.Error

/-!
# Cursors

A cursor walks over something and yields an item at a time.  It is a value: advancing gives a new
cursor and leaves the old one where it was, so a cursor can be kept and walked again.  Cursors only
read, so removing through one is refused.

A `Step` is one question put to a cursor, and `Cursor.run` puts a list of them one after the other.
What the answers mean is that of a walk over a list: `List` is a cursor itself, yielding its head and
leaving its tail, and the other cursors behave like the list of what they have still to yield.
-/

namespace SortedMultiset

/-- Something that yields items of `ι` one by one and knows how many are still to come. -/
class Cursor (κ : Type) (ι : outParam Type) where
  next? : κ → Option (ι × κ)
  remaining : κ → Nat

instance {ι : Type} : Cursor (List ι) ι where
  next?
    | [] => none
    | a :: as => some (a, as)
  remaining := List.length

namespace Cursor

variable {κ ι : Type} [Cursor κ ι]

/-- Yields the next item and moves behind it. -/
def advance (c : κ) : Option ι × κ :=
  match next? c with
  | none => (none, c)
  | some (a, c') => (some a, c')

/-- Skips `k` items and yields the one after them, moving as far as there are items. -/
def nth : Nat → κ → Option ι × κ
  | 0, c => advance c
  | k + 1, c =>
    match next? c with
    | none => (none, c)
    | some (_, c') => nth k c'

/-- Yields at most `n` items. -/
def drainUpTo : Nat → κ → List ι × κ
  | 0, c => ([], c)
  | n + 1, c =>
    match next? c with
    | none => ([], c)
    | some (a, c') =>
      let (items, last) := drainUpTo n c'
      (a :: items, last)

/-- Yields everything that is still to come. -/
def drain (c : κ) : List ι × κ := drainUpTo (remaining c) c

/-- Takes the last item out of what is walked over; cursors only read. -/
def remove (_ : κ) : Except Error Unit := .error (.unsupported "remove through a bag iterator")

/-! ### Steps -/

/-- One question put to a cursor. -/
inductive Step where
  /-- The next item. -/
  | next
  /-- The number of items to come. -/
  | length
  /-- Bounds on the number of items to come. -/
  | bounds
  /-- The item after the next `k`. -/
  | nth (k : Nat)
  /-- All items to come; the cursor stays. -/
  | fork
  /-- All items to come; the cursor moves to the end. -/
  | rest
  /-- Removal of the last item. -/
  | remove
  deriving DecidableEq, Repr

/-- The answer to a step. -/
inductive Answer (ι : Type) where
  | item (found : Option ι)
  | length (n : Nat)
  | bounds (lower upper : Nat)
  | items (found : List ι)
  | removal (outcome : Except Error Unit)

/-- Answers one step. -/
def answer (c : κ) : Step → Answer ι × κ
  | .next => let (a, c') := advance c; (.item a, c')
  | .length => (.length (remaining c), c)
  | .bounds => (.bounds (remaining c) (remaining c), c)
  | .nth k => let (a, c') := nth k c; (.item a, c')
  | .fork => (.items (drain c).1, c)
  | .rest => let (as, c') := drain c; (.items as, c')
  | .remove => (.removal (remove c), c)

/-- Answers steps one after the other. -/
def run (c : κ) : List Step → List (Answer ι)
  | [] => []
  | s :: steps => (answer c s).1 :: run (answer c s).2 steps

end Cursor

end SortedMultiset
