import SortedMultiset.Proofs.Checked.Edit
import SortedMultiset.Proofs.Checked.Split

/-!
# No operation faults

On words and arrays with bounds, every sum, difference, index and slice is a place where a program may
stop.  The operations on words (`Checked`) are written out with all of them.  On sound columns whose total
is a word none is ever met: what the operations give is what they give on numbers, arguments that are out
of range are answered by errors, and ordinals beyond the end are as good as the end
(`Indexer.Safe`, `Bag.Safe`, `Builder.Safe`).

Each place is safe for a reason of its own, but the reasons are few: searches and walks stay inside
(`searchWindow_within`, `Indexer.checkedLocateFrom_eq`), totals are the sums of the counts
(`Columns.Balanced`), and a cursor has no more left than there is behind it (`RangeCursor.Stands`).
-/

namespace SortedMultiset

variable {α : Type}

/-- Wherever a cursor stands after steps, the next item is found. -/
def Cursor.GoesOn {κ ι : Type} [Cursor κ ι] (checkedNext : κ → Checked (Option (ι × κ))) (c : κ) :
    Prop :=
  ∀ steps, checkedNext (Cursor.after c steps) = .ok (Cursor.next? (Cursor.after c steps))

namespace Bag

/-- A bag on which no operation stops at a fault, so long as totals stay words, and no cursor, wherever
it stands. -/
structure Safe (b : Bag α) : Prop where
  get : ∀ i, b.checkedGet i = .ok (b.get i)
  get_refused : ∀ i, b.size ≤ i → b.checkedGet i = .ok (.error (.indexOutOfRange i b.size))
  indexOf : ∀ e, b.checkedIndexOf e = .ok (b.indexOf e)
  rangeCursor : ∀ first last, b.checkedRangeCursor first last = .ok (b.rangeCursor first last)
  range_refused : ∀ first last, b.size ≤ last →
    b.checkedRangeCursor first last = .ok (.error (.indexOutOfRange last b.size))
  range_reversed : ∀ first last, last < b.size → last < first →
    b.checkedRangeCursor first last = .ok (.error (.invalidArgument "from" "from <= to"))
  indexedCursor : b.checkedIndexedCursor = .ok b.indexedCursor
  take : ∀ n, b.checkedTake n = .ok (b.take n).value
  drop : ∀ n, b.checkedDrop n = .ok (b.drop n).value
  /-- Beyond the end is as good as the end. -/
  saturates : ∀ n, b.size ≤ n → (b.take n).value.entries = b.entries ∧ (b.drop n).value.entries = []
  takeWhile : ∀ {σ : Type} (p : Probe σ α),
    b.checkedTakeWhileM p = (fun t => .ok t.value) <$> b.takeWhileM p
  dropWhile : ∀ {σ : Type} (p : Probe σ α),
    b.checkedDropWhileM p = (fun t => .ok t.value) <$> b.dropWhileM p
  span : ∀ {σ : Type} (p : Probe σ α), b.checkedSpanM p = (fun t => .ok t.value) <$> b.spanM p
  partition : ∀ {σ : Type} (p : Probe σ α),
    b.checkedPartitionM p = (fun t => .ok t.value) <$> b.partitionM p
  insertMany : ∀ e n, b.size + n < wordSize → b.checkedInsertMany e n = .ok (b.insertMany e n).value
  erase : ∀ e, b.checkedErase e = .ok (b.erase e).value
  elements_go_on : Cursor.GoesOn ElementCursor.checkedNext b.elementCursor
  runs_go_on : Cursor.GoesOn RunCursor.checkedNext b.runCursor
  runs_remaining : ∀ steps, (Cursor.after b.runCursor steps).checkedRemaining =
    .ok (Cursor.remaining (Cursor.after b.runCursor steps))
  indexed_go_on : Cursor.GoesOn RangeCursor.checkedNext b.indexedCursor
  range_goes_on : ∀ first last cursor, b.rangeCursor first last = .ok cursor →
    Cursor.GoesOn RangeCursor.checkedNext cursor

variable {b : Bag α}

/-- **Sound bags whose total is a word are safe.** -/
theorem safe (hb : b.WellFormed) (hfits : b.Fits) : b.Safe := by
  have h := hb.soundIn
  have helements := Cursor.after_induction (ElementCursor.kept_stands h) (ElementCursor.stands_start h)
  have hruns := Cursor.after_induction (RunCursor.kept_stands h) (RunCursor.stands_start b.toColumns)
  have hindexed := Cursor.after_induction (RangeCursor.kept_stands h) (stands_indexedCursor h hfits)
  exact {
    get := checkedGet_eq h hfits
    get_refused := fun i hi => by rw [checkedGet_eq h hfits, get_of_le hi]
    indexOf := checkedIndexOf_eq h hfits
    rangeCursor := checkedRangeCursor_eq h hfits
    range_refused := fun first last hlast => by
      rw [checkedRangeCursor_eq h hfits, rangeCursor_of_le hlast]
    range_reversed := fun first last hlast hlt => by
      rw [checkedRangeCursor_eq h hfits, rangeCursor_of_lt hlast hlt]
    indexedCursor := b.checkedIndexedCursor_eq
    take := checkedTake_eq h hfits
    drop := checkedDrop_eq h hfits
    saturates := fun n hn => by
      obtain ⟨htake, hdrop⟩ := take_drop_beyond hb hn
      rw [htake, hdrop]
      exact ⟨rfl, rfl⟩
    takeWhile := checkedTakeWhileM_eq h hfits
    dropWhile := checkedDropWhileM_eq h hfits
    span := checkedSpanM_eq h hfits
    partition := checkedPartitionM_eq h hfits
    insertMany := fun e _ hn => checkedInsertMany_eq hb.balanced hfits e hn
    erase := checkedErase_eq hb.balanced hfits
    elements_go_on := fun steps => (helements steps).checkedNext_eq h hfits
    runs_go_on := fun steps => (hruns steps).checkedNext_eq h hfits
    runs_remaining := fun steps => (hruns steps).checkedRemaining_eq h
    indexed_go_on := fun steps => (hindexed steps).checkedNext_eq h hfits
    range_goes_on := fun _ _ _ hcursor steps =>
      (Cursor.after_induction (RangeCursor.kept_stands h)
        (stands_rangeCursor h hfits hcursor) steps).checkedNext_eq h hfits }

end Bag

/-- **No operation faults.**  An indexer of any counts, zeros among them, whose sum is a word, a sound bag
whose total is a word, all its cursors in all their states, and a sound builder whose total is a word: no
index and no bound of a slice is out of range, no difference is negative and no sum larger than a word,
whatever the arguments are, so long as what is added leaves the total a word.  The comparator of the bag
or builder may be any function. -/
theorem no_operation_faults :
    (∀ counts : Array Nat, Addressable counts → sumCounts counts.toList < wordSize →
      Indexer.checkedOfCounts counts = .ok (.ofCounts counts) ∧ (Indexer.ofCounts counts).Safe) ∧
    (∀ b : Bag α, b.WellFormed → b.Fits → b.Safe ∧ b.indexer.Safe) ∧
    ∀ b : Builder α, b.WellFormed → b.size < wordSize → b.Safe :=
  ⟨fun _ hcounts hsum =>
      ⟨Indexer.checkedOfCounts_eq hsum, (Indexer.fits_ofCounts hcounts hsum).safe⟩,
    fun _ hb hfits => ⟨Bag.safe hb hfits, (Bag.fits_indexer hb.soundIn hfits).safe⟩,
    fun _ hb hsize => Builder.safe hb.balanced hsize⟩

/-- A total that is the greatest word, and counts among which a zero stands. -/
theorem no_operation_faults_greatest :
    let columns : Columns Nat :=
      ⟨#[12, 25], #[2, 18446744073709551613], .byKey 0 (· / 10), 18446744073709551615⟩
    let b : Bag Nat := ⟨columns⟩
    let builder : Builder Nat := ⟨columns⟩
    (Addressable #[2, 0, 1] ∧
      (Indexer.ofCounts #[2, 0, 1]).checkedPosition 2 = .ok (.ok ⟨2, 0⟩) ∧
      (Indexer.ofCounts #[2, 0, 1]).checkedRunStart 4 = .ok (.error (.indexOutOfRange 4 4))) ∧
    (b.WellFormed ∧ b.Fits ∧ b.checkedGet 18446744073709551614 = .ok (.ok 25) ∧
      b.checkedGet 18446744073709551615 =
        .ok (.error (.indexOutOfRange 18446744073709551615 18446744073709551615)) ∧
      b.checkedDrop 1 = .ok (b.drop 1).value ∧
      Cursor.GoesOn ElementCursor.checkedNext b.elementCursor) ∧
    builder.checkedRemoveMany 19 3 = .ok (builder.removeMany 19 3) ∧
    builder.checkedAddMany 19 1 = .error (.overflow 18446744073709551615 1) := by
  intro columns b builder
  have hb : b.WellFormed := by decide
  have hfits : b.Fits := ⟨by decide, by unfold Addressable; decide⟩
  have hcounts : Addressable #[2, 0, 1] := by unfold Addressable; decide
  obtain ⟨hindexers, hbags, hbuilders⟩ := no_operation_faults (α := Nat)
  have hindexer := (hindexers #[2, 0, 1] hcounts (by decide)).2
  have hsafe := (hbags b hb hfits).1
  refine ⟨⟨hcounts, ?_, hindexer.runStart_refused 4 (by decide)⟩,
    ⟨hb, hfits, ?_, hsafe.get_refused _ (Nat.le_refl _), hsafe.drop 1, hsafe.elements_go_on⟩,
    (hbuilders builder hb (by decide)).removeMany 19 3, ?_⟩
  · rw [hindexer.position]
    rfl
  · rw [hsafe.get]
    rfl
  · have hs : builder.search 19 = .found 0 := by decide +kernel
    rw [Builder.checkedAddMany, if_neg (by decide), hs]
    rfl

end SortedMultiset
