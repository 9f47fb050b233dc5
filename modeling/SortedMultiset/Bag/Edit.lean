import SortedMultiset.Builder

/-!
# Bags derived by adding and removing

A change of one element splices the columns of the bag directly; a change of many goes through a
builder.  Both ways lead to the same columns, with the total summed anew.  A change that has no effect
gives the bag itself.

* `Bag.entries_insertMany_found`, `Bag.entries_insertMany_absent`: adding changes one run or inserts one;
* `Bag.entries_erase_some`, `Bag.entries_erase_last`: removing changes one run or erases one.
-/

namespace SortedMultiset.Bag

variable {α : Type}

/-- The bag with `n` more occurrences of an element. -/
def insertMany (b : Bag α) (e : α) (n : Nat) : Traced (Bag α) :=
  if n = 0 then return b
  else
    match b.search e with
    | .found i => return .assemble b.elements (b.counts.modify i (· + n)) b.comparator
    | .absent i => do
      Traced.emit (.spliceInsert i b.distinct)
      return .assemble (b.elements.extract 0 i ++ #[e] ++ b.elements.extract i)
        (b.counts.extract 0 i ++ #[n] ++ b.counts.extract i) b.comparator

/-- The bag with one more occurrence of an element. -/
def insert (b : Bag α) (e : α) : Traced (Bag α) := b.insertMany e 1

/-- The bag with one occurrence of an element less, if there is one. -/
def erase (b : Bag α) (e : α) : Traced (Bag α) :=
  match b.search e with
  | .absent _ => return b
  | .found i =>
    if 1 < b.counts.getD i 0 then
      return .assemble b.elements (b.counts.modify i (· - 1)) b.comparator
    else do
      Traced.emit (.spliceRemove i b.distinct)
      return .assemble (b.elements.extract 0 i ++ b.elements.extract (i + 1))
        (b.counts.extract 0 i ++ b.counts.extract (i + 1)) b.comparator

/-- The bag with all items of a list added. -/
def insertAll (b : Bag α) (items : List α) : Traced (Bag α) :=
  ((Builder.ofBag b).addAll items).freeze

/-- The bag with one occurrence removed for each item of a list, where there is one. -/
def eraseAll (b : Bag α) (items : List α) : Traced (Bag α) :=
  ((Builder.ofBag b).removeAll items).freeze

/-! ### The runs after an edit -/

variable {b : Bag α} {e : α} {i n : Nat}

@[simp] theorem insertMany_zero (b : Bag α) (e : α) : b.insertMany e 0 = pure b := by
  simp [insertMany]

theorem entries_insertMany_found (hn : n ≠ 0) (h : b.search e = .found i) :
    (b.insertMany e n).value.entries = b.entries.modify i fun r => (r.1, r.2 + n) := by
  simp [insertMany, hn, h, assemble, Columns.entries, zip_modify]

theorem entries_insertMany_absent (hn : n ≠ 0) (h : b.search e = .absent i)
    (hlen : b.counts.size = b.elements.size) (hi : i ≤ b.elements.size) :
    (b.insertMany e n).value.entries = b.entries.insertIdx i (e, n) := by
  have hi' : i ≤ b.counts.size := hlen ▸ hi
  simp only [insertMany, hn, h, if_false, Traced.value_bind, Traced.value_pure, assemble,
    Columns.entries]
  rw [toList_splice hi, toList_splice hi',
    zip_insertIdx e n i _ _ (by simpa using hi) (by simpa using hi')]

theorem erase_absent (h : b.search e = .absent i) : b.erase e = pure b := by
  simp [erase, h]

theorem entries_erase_some (h : b.search e = .found i) (hlt : 1 < b.counts.getD i 0) :
    (b.erase e).value.entries = b.entries.modify i fun r => (r.1, r.2 - 1) := by
  simp only [erase, h, hlt, if_true, Traced.value_pure, assemble, Columns.entries,
    Array.toList_modify, zip_modify]

theorem entries_erase_last (h : b.search e = .found i) (hle : b.counts.getD i 0 ≤ 1) :
    (b.erase e).value.entries = b.entries.eraseIdx i := by
  simp only [erase, h, Nat.not_lt.mpr hle, if_false, Traced.value_bind, Traced.value_pure, assemble,
    Columns.entries, toList_unsplice, zip_eraseIdx]

end SortedMultiset.Bag
