import SortedMultiset.BagLike
import SortedMultiset.Indexer
import SortedMultiset.Runs
import SortedMultiset.Search

/-!
# Columns

A sorted multiset is laid out in two parallel columns: the distinct elements, ascending, and the
count of each.  Beside them stand the comparator and the cached total.  Frozen bags and builders
share this layout and the questions that only read it.

`Columns` is plain data, since a snapshot of a foreign source is taken over as it is, whatever that
source says about itself.  What a sound layout satisfies is `Columns.WellFormed`: columns of one
length, elements strictly ascending pairwise, counts positive, the cached total exact.
-/

namespace SortedMultiset

/-- Distinct elements and their counts, with the order and the cached total. -/
structure Columns (α : Type) where
  elements : Array α
  counts : Array Nat
  comparator : Comparator α
  size : Nat

namespace Columns

variable {α : Type}

/-- No elements. -/
def empty (c : Comparator α) : Columns α := ⟨#[], #[], c, 0⟩

/-- The number of distinct elements. -/
def distinct (t : Columns α) : Nat := t.elements.size

/-- The runs in stored order. -/
def entries (t : Columns α) : List (α × Nat) := t.elements.toList.zip t.counts.toList

/-- The slot of an element, or the slot before which it belongs. -/
def search (t : Columns α) (e : α) : Slot :=
  SortedMultiset.search (fun stored => t.comparator.compare stored e) t.elements

/-- How often an element occurs. -/
def count (t : Columns α) (e : α) : Nat :=
  match t.search e with
  | .found i => t.counts.getD i 0
  | .absent _ => 0

def contains (t : Columns α) (e : α) : Bool := (t.search e).isFound

/-- A layout that keeps all its promises. -/
structure WellFormed (t : Columns α) : Prop where
  /-- The columns have one length. -/
  length_eq : t.counts.size = t.elements.size
  /-- Every element precedes all later ones. -/
  ascending : t.elements.toList.Pairwise fun a b => t.comparator.compare a b = .lt
  /-- Every element occurs. -/
  positive : ∀ n ∈ t.counts, 0 < n
  /-- The cached total is the sum of the counts. -/
  size_eq : t.size = sumCounts t.counts.toList

instance (t : Columns α) : Decidable t.WellFormed :=
  decidable_of_iff
    (t.counts.size = t.elements.size ∧
      (t.elements.toList.Pairwise fun a b => t.comparator.compare a b = .lt) ∧
      (∀ n ∈ t.counts, 0 < n) ∧ t.size = sumCounts t.counts.toList)
    ⟨fun ⟨hlength, hascending, hpositive, hsize⟩ => ⟨hlength, hascending, hpositive, hsize⟩,
      fun h => ⟨h.length_eq, h.ascending, h.positive, h.size_eq⟩⟩

theorem wellFormed_empty (c : Comparator α) : (empty c).WellFormed where
  length_eq := rfl
  ascending := .nil
  positive := by simp [empty]
  size_eq := by simp [empty]

/-! ### The runs -/

@[simp] theorem entries_empty (c : Comparator α) : (empty c).entries = [] := rfl

theorem map_fst_entries {t : Columns α} (h : t.counts.size = t.elements.size) :
    t.entries.map Prod.fst = t.elements.toList :=
  List.map_fst_zip (by simp [h])

theorem map_snd_entries {t : Columns α} (h : t.counts.size = t.elements.size) :
    t.entries.map Prod.snd = t.counts.toList :=
  List.map_snd_zip (by simp [h])

/-- A run stands at a slot when its element and its count do. -/
theorem getElem?_entries {t : Columns α} {i : Nat} {r : α × Nat} :
    t.entries[i]? = some r ↔ t.elements[i]? = some r.1 ∧ t.counts[i]? = some r.2 := by
  rw [entries, List.getElem?_zip_eq_some, Array.getElem?_toList, Array.getElem?_toList]

theorem length_entries {t : Columns α} (h : t.counts.size = t.elements.size) :
    t.entries.length = t.elements.size := by
  simp [entries, h]

/-- The cached total of a sound layout is the total of its runs. -/
theorem WellFormed.total_entries {t : Columns α} (h : t.WellFormed) : total t.entries = t.size := by
  rw [total, map_snd_entries h.length_eq, h.size_eq]

/-- The runs say what is in the columns. -/
theorem entries_inj {s t : Columns α} (hs : s.counts.size = s.elements.size)
    (ht : t.counts.size = t.elements.size) :
    s.entries = t.entries ↔ s.elements = t.elements ∧ s.counts = t.counts := by
  constructor
  · intro he
    rw [← Array.toList_inj, ← Array.toList_inj, ← map_fst_entries hs, ← map_fst_entries ht,
      ← map_snd_entries hs, ← map_snd_entries ht, he]
    exact ⟨rfl, rfl⟩
  · rintro ⟨helements, hcounts⟩
    rw [entries, entries, helements, hcounts]

/-- Sound layouts with the same runs and comparator are the same. -/
theorem WellFormed.ext {s t : Columns α} (hs : s.WellFormed) (ht : t.WellFormed)
    (hc : s.comparator = t.comparator) (he : s.entries = t.entries) : s = t := by
  obtain ⟨helements, hcounts⟩ := (entries_inj hs.length_eq ht.length_eq).mp he
  have hsize : s.size = t.size := by rw [hs.size_eq, ht.size_eq, hcounts]
  cases s; cases t; simp_all

/-! ### Searching a sound layout -/

/-- An element sees the stored ones ascend. -/
theorem WellFormed.ascends {t : Columns α} (h : t.WellFormed) [Std.TransCmp t.comparator.compare]
    (e : α) : Ascends (fun stored => t.comparator.compare stored e) t.elements.toList :=
  h.ascending.imp fun hab ha =>
    Std.OrientedCmp.gt_of_lt (Std.TransCmp.lt_of_isLE_of_lt
      (by cases hea : t.comparator.compare e _ <;> simp_all [Std.OrientedCmp.gt_iff_lt]) hab)

/-- **Search in a sound layout.**  Before the slot everything is less, after it everything is greater,
and the slot itself matches if the element is found. -/
theorem WellFormed.search_fits {t : Columns α} (h : t.WellFormed)
    [Std.TransCmp t.comparator.compare] (e : α) :
    (t.search e).Fits (fun stored => t.comparator.compare stored e) t.elements.toList :=
  SortedMultiset.search_fits (h.ascends e)

end Columns

end SortedMultiset
