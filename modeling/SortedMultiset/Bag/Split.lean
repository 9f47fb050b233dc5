import SortedMultiset.Bag.Access
import SortedMultiset.Builder
import SortedMultiset.Probe

/-!
# Splitting a bag

A bag is cut at an ordinal (`take`, `drop`), before the first run that a probe rejects (`takeWhileM`,
`dropWhileM`, `spanM`), or run by run (`partitionM`).  A cut inside a run divides its count.  The parts are
rebuilt through builders, run by run; where nothing or everything is wanted no builder is needed.
-/

namespace SortedMultiset

/-- The two parts of a bag. -/
structure Split (α : Type) where
  selected : Bag α
  rejected : Bag α

namespace Bag

variable {σ α : Type}

/-- A builder with the runs of the slots from `lo` to before `hi`. -/
def runsBuilder (b : Bag α) (lo hi : Nat) : Builder α :=
  (Builder.empty b.comparator).addRuns ((b.entries.drop lo).take (hi - lo))

/-- The bag of the runs of the slots from `lo` to before `hi`. -/
def slice (b : Bag α) (lo hi : Nat) : Traced (Bag α) := (b.runsBuilder lo hi).freeze

/-! ### Cutting at an ordinal -/

/-- The first `n` elements of the expanded sequence. -/
def take (b : Bag α) (n : Nat) : Traced (Bag α) :=
  if n = 0 then return .empty b.comparator
  else if b.size ≤ n then return b
  else
    let cut := b.indexer.locate n
    let whole := b.runsBuilder 0 cut.slot
    match b.elements[cut.slot]? with
    | some e => (whole.addMany e cut.offset).freeze
    | none => whole.freeze

/-- The elements of the expanded sequence after the first `n`. -/
def drop (b : Bag α) (n : Nat) : Traced (Bag α) :=
  if n = 0 then return b
  else if b.size ≤ n then return .empty b.comparator
  else
    let cut := b.indexer.locate n
    match b.entries.drop cut.slot with
    | [] => (Builder.empty b.comparator).freeze
    | (e, count) :: runs =>
      (((Builder.empty b.comparator).addMany e (count - cut.offset)).addRuns runs).freeze

/-! ### Cutting before the first rejected run -/

/-- How many slots there are before the first that is rejected. -/
def boundary (b : Bag α) (p : Probe σ α) : StateM σ Nat := p.acceptedLength b.elements.toList

/-- The runs before the first that is rejected. -/
def takeWhileM (b : Bag α) (p : Probe σ α) : StateM σ (Traced (Bag α)) :=
  return b.slice 0 (← b.boundary p)

/-- The runs from the first that is rejected on. -/
def dropWhileM (b : Bag α) (p : Probe σ α) : StateM σ (Traced (Bag α)) :=
  return b.slice (← b.boundary p) b.distinct

/-- Both parts: before the first run that is rejected, and from it on. -/
def spanM (b : Bag α) (p : Probe σ α) : StateM σ (Traced (Split α)) := do
  let cut ← b.boundary p
  return do
    Traced.emit (.boundary cut b.distinct)
    let selected ← b.slice 0 cut
    let rejected ← b.slice cut b.distinct
    return { selected, rejected }

/-! ### Deciding run by run -/

/-- Hands every run to one of two builders. -/
def distribute (p : Probe σ α) :
    List (α × Nat) → Builder α → Builder α → StateM σ (Builder α × Builder α)
  | [], selected, rejected => return (selected, rejected)
  | (e, n) :: runs, selected, rejected => do
    if ← p e then distribute p runs (selected.addMany e n) rejected
    else distribute p runs selected (rejected.addMany e n)

/-- The runs that are accepted, and those that are not. -/
def partitionM (b : Bag α) (p : Probe σ α) : StateM σ (Traced (Split α)) := do
  let (selected, rejected) ←
    distribute p b.entries (.empty b.comparator) (.empty b.comparator)
  return do
    let selected ← selected.freeze
    let rejected ← rejected.freeze
    return { selected, rejected }

end Bag

end SortedMultiset
