import SortedMultiset.Bag.Basic
import SortedMultiset.Columns.Edit
import SortedMultiset.Settings
import SortedMultiset.Trace

/-!
# Builders

A `Builder` accumulates elements under a comparator and keeps its columns sorted all the while.
`Builder.freeze` makes a bag of it; the total of that bag is summed anew from the counts, while the
builder's own total is kept up to date step by step.

Adding to an element that is there keeps the stored representative.  Removing more occurrences than
there are removes them all.

* `Builder.entries_addMany_found`, `Builder.entries_addMany_absent`: adding changes one run or inserts one;
* `Builder.entries_removeMany_some`, `Builder.entries_removeMany_all`: removing changes one run or erases
  one;
* `Builder.entries_freeze`: freezing keeps the runs.
-/

namespace SortedMultiset

/-- A sorted multiset in the making. -/
structure Builder (α : Type) extends Columns α

namespace Builder

variable {α : Type}

def empty (c : Comparator α) : Builder α := ⟨.empty c⟩

/-- An empty builder ordered as the settings say; their capacity is only a hint. -/
def ofSettings (s : Settings α) : Except Error (Builder α) := do
  let c ← s.resolve
  return empty c

/-- A builder that starts with the content of a bag. -/
def ofBag (b : Bag α) : Builder α := ⟨b.toColumns⟩

def isEmpty (b : Builder α) : Bool := b.size == 0

/-- Adds `n` occurrences of an element. -/
def addMany (b : Builder α) (e : α) (n : Nat) : Builder α :=
  if n = 0 then b
  else
    match b.search e with
    | .found i => { b with counts := b.counts.modify i (· + n), size := b.size + n }
    | .absent i =>
      { b with
        elements := b.elements.insertIdxIfInBounds i e
        counts := b.counts.insertIdxIfInBounds i n
        size := b.size + n }

/-- Adds one occurrence of an element. -/
def add (b : Builder α) (e : α) : Builder α := b.addMany e 1

/-- Adds the items of a list one by one. -/
def addAll (b : Builder α) (items : List α) : Builder α := items.foldl add b

/-- Adds whole runs, one by one. -/
def addRuns (b : Builder α) (runs : List (α × Nat)) : Builder α :=
  runs.foldl (fun b r => b.addMany r.1 r.2) b

/-- Removes up to `n` occurrences of an element; says whether there was anything to remove. -/
def removeMany (b : Builder α) (e : α) (n : Nat) : Bool × Builder α :=
  if n = 0 then (false, b)
  else
    match b.search e with
    | .absent _ => (false, b)
    | .found i =>
      let stored := b.counts.getD i 0
      if n < stored then
        (true, { b with counts := b.counts.modify i (· - n), size := b.size - n })
      else
        (true,
          { b with
            elements := b.elements.eraseIdxIfInBounds i
            counts := b.counts.eraseIdxIfInBounds i
            size := b.size - stored })

/-- Removes one occurrence for each item of a list, where there is one. -/
def removeAll (b : Builder α) (items : List α) : Builder α :=
  items.foldl (fun b e => (b.removeMany e 1).2) b

/-- Freezes the content into a bag. -/
def freeze (b : Builder α) : Traced (Bag α) := do
  Traced.emit (.freezing b.distinct b.size)
  return if b.elements.isEmpty then .empty b.comparator
    else .assemble b.elements b.counts b.comparator

instance : SortedBagLike (Builder α) α where
  size b := b.size
  distinct b := b.distinct
  count b := b.count
  entries b := b.entries
  comparator b := b.comparator

/-! ### The runs after an edit -/

variable {b : Builder α} {e : α} {i n : Nat}

@[simp] theorem addMany_zero (b : Builder α) (e : α) : b.addMany e 0 = b := by
  simp [addMany]

@[simp] theorem comparator_addMany (b : Builder α) (e : α) (n : Nat) :
    (b.addMany e n).comparator = b.comparator := by
  unfold addMany
  split
  · rfl
  · split <;> rfl

@[simp] theorem comparator_removeMany (b : Builder α) (e : α) (n : Nat) :
    (b.removeMany e n).2.comparator = b.comparator := by
  unfold removeMany
  split
  · rfl
  · split
    · rfl
    · dsimp only
      split <;> rfl

theorem entries_addMany_found (hn : n ≠ 0) (h : b.search e = .found i) :
    (b.addMany e n).entries = b.entries.modify i fun r => (r.1, r.2 + n) := by
  simp [addMany, hn, h, Columns.entries, zip_modify]

theorem entries_addMany_absent (hn : n ≠ 0) (h : b.search e = .absent i)
    (hlen : b.counts.size = b.elements.size) (hi : i ≤ b.elements.size) :
    (b.addMany e n).entries = b.entries.insertIdx i (e, n) := by
  have hi' : i ≤ b.counts.size := hlen ▸ hi
  simp only [addMany, hn, h, Columns.entries, if_false]
  rw [toList_insertIdxIfInBounds hi, toList_insertIdxIfInBounds hi',
    zip_insertIdx e n i _ _ (by simpa using hi) (by simpa using hi')]

theorem removeMany_absent (h : b.search e = .absent i) : b.removeMany e n = (false, b) := by
  by_cases hn : n = 0 <;> simp [removeMany, hn, h]

theorem entries_removeMany_some (hn : n ≠ 0) (h : b.search e = .found i)
    (hlt : n < b.counts.getD i 0) :
    (b.removeMany e n).2.entries = b.entries.modify i fun r => (r.1, r.2 - n) := by
  simp only [removeMany, hn, h, if_false, hlt, if_true, Columns.entries, Array.toList_modify,
    zip_modify]

theorem entries_removeMany_all (hn : n ≠ 0) (h : b.search e = .found i)
    (hle : b.counts.getD i 0 ≤ n) :
    (b.removeMany e n).2.entries = b.entries.eraseIdx i := by
  simp only [removeMany, hn, h, if_false, Nat.not_lt.mpr hle, Columns.entries,
    Array.toList_eraseIdxIfInBounds, zip_eraseIdx]

theorem entries_freeze (b : Builder α) : b.freeze.value.entries = b.entries := by
  by_cases h : b.elements.isEmpty
  · have hb : b.elements = #[] := by simpa using h
    simp [freeze, hb, Bag.empty, Columns.entries, Columns.empty]
  · simp [freeze, h, Bag.assemble, Columns.entries]

theorem comparator_freeze (b : Builder α) : b.freeze.value.comparator = b.comparator := by
  by_cases h : b.elements.isEmpty <;> simp [freeze, h, Bag.empty, Bag.assemble, Columns.empty]

/-- Freezing reports once, whatever is frozen. -/
theorem records_freeze (b : Builder α) : b.freeze.records = [.freezing b.distinct b.size] := by
  simp [freeze]

end Builder

end SortedMultiset
