import SortedMultiset.Builder

/-!
# Making bags

A bag is collected from items, which are sorted and counted on the way, or taken over from something
that is a sorted multiset already.  Taking over trusts the source: its entries are stored in the
order in which it lists them, and its size is what it says.
-/

namespace SortedMultiset.Bag

variable {α β : Type}

/-- The bag of the items, in the natural order. -/
def ofList [Ord α] (label : Nat) (items : List α) : Traced (Bag α) :=
  ((Builder.empty (.natural label)).addAll items).freeze

/-- The bag of the items, ordered as the settings say. -/
def collect (s : Settings α) (items : List α) : Except Error (Traced (Bag α)) := do
  let b ← Builder.ofSettings s
  return (b.addAll items).freeze

/-- Takes over a sorted multiset, which must not be empty. -/
def ofSorted [SortedBagLike β α] (source : β) : Except Error (Bag α) :=
  if BagLike.isEmpty source then .error (.construction "source bag is empty")
  else
    let entries := BagLike.entries source
    .ok ⟨⟨(entries.map Prod.fst).toArray, (entries.map Prod.snd).toArray,
      SortedBagLike.comparator source, BagLike.size source⟩⟩

end SortedMultiset.Bag
