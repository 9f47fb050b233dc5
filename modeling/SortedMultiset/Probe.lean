/-!
# Probes

A probe is a predicate that may remember: it answers in a state `σ` and its next answer may depend on
the calls before.  How often a probe is called, on what and in which order, is therefore part of what
a scan does, and `Probe.logged` makes it visible: it answers as the probe does and writes down every
call.

* `Probe.firstSlot`: the slot of the first accepted element;
* `Probe.acceptedLength`: how many elements from the start are accepted before one is not.
-/

namespace SortedMultiset

/-- A predicate with a memory. -/
abbrev Probe (σ α : Type) := α → StateM σ Bool

namespace Probe

variable {σ α : Type}

/-- The probe of a plain predicate. -/
def ofPred (p : α → Bool) : Probe σ α := fun a => pure (p a)

/-- Answers the opposite, with the same calls. -/
def negate (p : Probe σ α) : Probe σ α := fun a => do return !(← p a)

/-- Answers as the probe and notes the element after the calls noted so far. -/
def logged (p : Probe σ α) : Probe (σ × List α) α := fun a => do
  let (state, calls) ← get
  let (answer, state) := (p a).run state
  set (state, calls ++ [a])
  return answer

/-- The slot of the first accepted element; later elements are not asked about. -/
def firstSlot (p : Probe σ α) : List α → StateM σ (Option Nat)
  | [] => return none
  | a :: as => do
    if ← p a then return some 0
    return (← firstSlot p as).map (· + 1)

/-- The length of the accepted prefix; nothing after the first rejected element is asked about. -/
def acceptedLength (p : Probe σ α) : List α → StateM σ Nat
  | [] => return 0
  | a :: as => do
    if ← p a then return (← acceptedLength p as) + 1
    return 0

end Probe

end SortedMultiset
