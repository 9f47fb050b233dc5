import SortedMultiset.Bag.Scan
import SortedMultiset.Proofs.Bag.Slice

/-!
# Cutting before the first element that is rejected

`Bag.spanM`, `Bag.takeWhileM` and `Bag.dropWhileM` ask a probe about the distinct elements until it says
no, and rebuild the runs on the two sides run by run.  The probe may remember, so that what it is asked, and
how often, is part of what they do.

Where they cut is said by the answers that the probe would give to all elements in turn
(`Bag.FirstRejected`).  Up to the first no these are the answers that it gives; the later ones are never
asked for, and nothing depends on them.  What is rebuilt are the very slots of the bag
(`Bag.holdsSlots_slice`).

* `Bag.cuts_before_firstRejected`: the three operations ask the same, and cut the columns at the same slot.
-/

namespace SortedMultiset.Bag

variable {σ α : Type} {b : Bag α} {c : Comparator α} {p : Probe σ α} {state : σ} {k k' : Nat}

/-! ### Where the cut is -/

/-- The slot `k` is the first whose element is rejected; if none is, `k` is the number of slots. -/
structure FirstRejected (b : Bag α) (p : Probe σ α) (state : σ) (k : Nat) : Prop where
  le_distinct : k ≤ b.distinct
  accepted : ∀ i < k, (b.answers p state)[i]? = some true
  rejected : k < b.distinct → (b.answers p state)[k]? = some false

/-- It is the first that is answered by no, among all distinct elements. -/
theorem firstRejected_iff :
    b.FirstRejected p state k ↔ p.FirstAnswered false b.distinctElements state k := by
  constructor
  · intro h
    exact ⟨h.le_distinct, h.accepted, h.rejected⟩
  · intro h
    exact ⟨h.le_length, h.before, h.here⟩

theorem FirstRejected.unique (h : b.FirstRejected p state k) (h' : b.FirstRejected p state k') :
    k = k' :=
  (firstRejected_iff.mp h).unique (firstRejected_iff.mp h')

/-- **The boundary** is at the first slot that is rejected. -/
theorem firstRejected_boundary (b : Bag α) (p : Probe σ α) (state : σ) :
    b.FirstRejected p state ((b.boundary p).run state).1 :=
  firstRejected_iff.mpr (p.firstAnswered_acceptedLength b.distinctElements state)

/-! ### What is asked -/

theorem asks_boundary (b : Bag α) (p : Probe σ α) (state : σ) :
    Asks (b.boundary p) (b.boundary p.logged) state
      (b.distinctElements.take (((b.boundary p).run state).1 + 1)) :=
  p.asks_acceptedLength b.elements.toList state

theorem asks_takeWhileM (b : Bag α) (p : Probe σ α) (state : σ) :
    Asks (b.takeWhileM p) (b.takeWhileM p.logged) state
      (b.distinctElements.take (((b.boundary p).run state).1 + 1)) :=
  (b.asks_boundary p state).bind_pure _

theorem asks_dropWhileM (b : Bag α) (p : Probe σ α) (state : σ) :
    Asks (b.dropWhileM p) (b.dropWhileM p.logged) state
      (b.distinctElements.take (((b.boundary p).run state).1 + 1)) :=
  (b.asks_boundary p state).bind_pure _

theorem asks_spanM (b : Bag α) (p : Probe σ α) (state : σ) :
    Asks (b.spanM p) (b.spanM p.logged) state
      (b.distinctElements.take (((b.boundary p).run state).1 + 1)) :=
  (b.asks_boundary p state).bind_pure _

/-! ### The two parts -/

/-- The parts of a bag before a slot and from it on, column by column. -/
structure CutBefore (b : Bag α) (k : Nat) (before behind : Bag α) : Prop where
  before_elements : before.elements = b.elements.extract 0 k
  before_counts : before.counts = b.counts.extract 0 k
  behind_elements : behind.elements = b.elements.extract k
  behind_counts : behind.counts = b.counts.extract k
  before_wellFormed : before.WellFormed
  behind_wellFormed : behind.WellFormed
  before_comparator : before.comparator = b.comparator
  behind_comparator : behind.comparator = b.comparator
  toList_append : before.toList ++ behind.toList = b.toList
  size_add : before.size + behind.size = b.size

theorem cutBefore_slices (h : b.SoundIn c) (k : Nat) :
    b.CutBefore k (b.slice 0 k).value (b.slice k b.distinct).value := by
  have hbefore := soundIn_slice h 0 k
  have hbehind := soundIn_slice h k b.distinct
  have hbeforeSlots := holdsSlots_slice h 0 k
  have hbehindSlots := holdsSlots_slice h k b.distinct
  have htoList : (b.slice 0 k).value.toList ++ (b.slice k b.distinct).value.toList = b.toList := by
    have hrest : (b.entries.drop k).length = b.distinct - k := by
      rw [List.length_drop, ← h.elements_size]
      rfl
    rw [toList, toList, toList, ← expand_append, entries_slice h, entries_slice h, ← hrest,
      List.take_length, List.drop_zero, Nat.sub_zero, List.take_append_drop]
  exact {
    before_elements := hbeforeSlots.elements_eq
    before_counts := hbeforeSlots.counts_eq
    behind_elements := hbehindSlots.elements_eq
    behind_counts := by
      rw [hbehindSlots.counts_eq, Columns.distinct, ← h.length_eq]
    before_wellFormed := hbefore.wellFormed
    behind_wellFormed := hbehind.wellFormed
    before_comparator := hbefore.comparator_eq.trans h.comparator_eq.symm
    behind_comparator := hbehind.comparator_eq.trans h.comparator_eq.symm
    toList_append := htoList
    size_add := by
      rw [← length_toList hbefore.wellFormed, ← length_toList hbehind.wellFormed,
        ← List.length_append, htoList, length_toList h.wellFormed] }

/-- **Cutting before the first element that is rejected.**  Whatever a probe remembers and in whatever
state it is, there is a first slot that it rejects, or all are accepted.  All three operations ask about
the elements up to that one, once each and in order, and about no other.  What is selected has the
columns of the bag before that slot, what is rejected has them from it on, and together they are the
bag. -/
theorem cuts_before_firstRejected (hb : b.WellFormed) (p : Probe σ α) (state : σ) :
    ∃ k, b.FirstRejected p state k ∧
      Asks (b.spanM p) (b.spanM p.logged) state (b.distinctElements.take (k + 1)) ∧
      Asks (b.takeWhileM p) (b.takeWhileM p.logged) state (b.distinctElements.take (k + 1)) ∧
      Asks (b.dropWhileM p) (b.dropWhileM p.logged) state (b.distinctElements.take (k + 1)) ∧
      b.CutBefore k ((b.spanM p).run state).1.value.selected
        ((b.spanM p).run state).1.value.rejected ∧
      b.CutBefore k ((b.takeWhileM p).run state).1.value ((b.dropWhileM p).run state).1.value := by
  have hfirst := b.firstRejected_boundary p state
  have hcut := cutBefore_slices hb.soundIn ((b.boundary p).run state).1
  exact ⟨_, hfirst, b.asks_spanM p state, b.asks_takeWhileM p state, b.asks_dropWhileM p state,
    hcut, hcut⟩

/-- A probe that rejects its second call only.  It would accept the last element, but is not asked. -/
theorem cuts_before_firstRejected_secondCall :
    let b : Bag Nat := ⟨⟨#[12, 25, 31], #[2, 1, 3], .byKey 0 (· / 10), 6⟩⟩
    let p : Probe Nat Nat := fun _ => do
      let calls ← get
      set (calls + 1)
      return calls != 1
    b.WellFormed ∧ b.answers p 0 = [true, false, true] ∧
      Asks (b.spanM p) (b.spanM p.logged) 0 [12, 25] ∧
      ((b.takeWhileM p.logged).run (0, [])).2 = (2, [12, 25]) ∧
      ((b.takeWhileM p).run 0).1.value.elements = #[12] ∧
      ((b.dropWhileM p).run 0).1.value.counts = #[1, 3] := by
  intro b p
  have hb : b.WellFormed := by decide
  obtain ⟨k, hfirst, hspan, htakeWhile, -, -, hcut⟩ := cuts_before_firstRejected hb p 0
  have hk : k = 1 := hfirst.unique (b.firstRejected_boundary p 0)
  subst hk
  refine ⟨hb, by decide +kernel, hspan, ?_, hcut.before_elements, hcut.behind_counts⟩
  rw [htakeWhile []]
  rfl

end SortedMultiset.Bag
