import SortedMultiset.Bag.Split
import SortedMultiset.Text.Form
import SortedMultiset.Text.Quoted

/-!
# Descriptions

`Describe α` gives the form in which values of `α` are described.  Bags and builders show their columns
and total and elide the comparator; a comparator shows nothing of itself.
-/

namespace SortedMultiset

/-- How a value is described. -/
class Describe (α : Type) where
  form : α → Form

namespace Describe

variable {α β : Type}

instance : Describe Nat := ⟨fun n => .atom (toString n)⟩

instance : Describe Int64 := ⟨fun n => .atom (toString n.toInt)⟩

instance : Describe String := ⟨fun s => .atom (quote s)⟩

instance [Describe α] [Describe β] : Describe (α × β) := ⟨fun p => .call "" [form p.1, form p.2]⟩

instance [Describe α] : Describe (List α) := ⟨fun xs => .list (xs.map form)⟩

instance [Describe α] : Describe (Option α) :=
  ⟨fun
    | some a => .call "Some" [form a]
    | none => .atom "None"⟩

instance : Describe (Comparator α) := ⟨fun _ => .sealed "Comparator"⟩

instance : Describe (Settings α) :=
  ⟨fun s => .record "SortedBagConfig"
    [("comparator", form s.comparator?), ("initial_capacity", form s.capacity)] false⟩

/-- The columns and the total of a layout, under the name of what it belongs to. -/
def columns [Describe α] (name : String) (t : Columns α) : Form :=
  .record name
    [("elements", form t.elements.toList), ("occurrences", form t.counts.toList),
      ("size", form t.size)] true

instance [Describe α] : Describe (Bag α) := ⟨fun b => columns "ImmutableSortedBag" b.toColumns⟩

instance [Describe α] : Describe (Builder α) := ⟨fun b => columns "SortedBagBuilder" b.toColumns⟩

instance [Describe α] : Describe (Split α) :=
  ⟨fun s => .record "PartitionSortedBag"
    [("selected", form s.selected), ("rejected", form s.rejected)] false⟩

instance : Describe Indexer :=
  ⟨fun x => .record "OrdinalIndexer"
    [("occurrences", form x.counts.toList), ("size", form x.size)] false⟩

instance : Describe Position :=
  ⟨fun p => .record "RunPosition"
    [("distinct_index", form p.slot), ("offset", form p.offset)] false⟩

/-- The cause of an error, with its details. -/
def cause : Error → Form
  | .construction reason => .record "Construction" [("message", form reason)] false
  | .configuration reason => .record "Configuration" [("message", form reason)] false
  | .invalidArgument name condition =>
    .record "InvalidArgument" [("name", form name), ("message", form condition)] false
  | .indexOutOfRange index size =>
    .record "IndexOutOfRange" [("index", form index), ("size", form size)] false
  | .emptyState operation => .record "EmptyState" [("operation", form operation)] false
  | .unsupported operation => .record "UnsupportedOperation" [("operation", form operation)] false

instance : Describe Error := ⟨fun e => .call "Error" [cause e]⟩

/-- The description on one line. -/
def text [Describe α] (a : α) : String := (form a).compact

/-- The description on many lines. -/
def prettyText [Describe α] (a : α) : String := (form a).pretty

end Describe

end SortedMultiset
