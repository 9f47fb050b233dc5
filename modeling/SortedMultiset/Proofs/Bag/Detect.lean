import SortedMultiset.Bag.Scan
import SortedMultiset.Proofs.Bag.Ordinals
import SortedMultiset.Proofs.Scan

/-!
# What the scans of a bag have in common

`Bag.findM?`, `Bag.anyM`, `Bag.noneM` and `Bag.findOrdinalM?` look for the first element with a yes,
`Bag.allM` for the first with a no.  Each is made of the number of elements that are accepted until then,
by the opposite probe (`Bag.rejectedLength`) or by the probe itself, so that they ask the same and agree
whatever the probe remembers.

The ordinal that `Bag.findOrdinalM?` gives belongs to a slot.  It is the one that a search for the element
of the slot finds (`Bag.indexOf_element`), and in the expanded sequence it is the first place at which
the predicate holds (`findIdx?_expand`).

* `Bag.scans_agree`: what is asked, and how the answers fit together.
-/

namespace SortedMultiset

variable {σ α : Type}

/-- **The first place of a kind** in a sequence is where the first run of that kind starts. -/
theorem findIdx?_expand {rs : List (α × Nat)} (hpos : ∀ r ∈ rs, 0 < r.2) (q : α → Bool) :
    (expand rs).findIdx? q = (rs.findIdx? fun r => q r.1).map fun i => total (rs.take i) := by
  induction rs with
  | nil => rfl
  | cons r rs ih =>
    have hr : 0 < r.2 := hpos r (by simp)
    have hrest := ih fun s hs => hpos s (List.mem_cons_of_mem _ hs)
    rw [expand_cons, List.findIdx?_append, List.findIdx?_replicate, List.findIdx?_cons, hrest,
      List.length_replicate]
    cases hq : q r.1 with
    | true => simp [hr, total]
    | false =>
      simp only [Bool.false_eq_true, and_false, if_false, Option.none_or, Option.map_map]
      refine congrArg (Option.map · _) (funext fun i => ?_)
      show total (rs.take i) + r.2 = total ((r :: rs).take (i + 1))
      rw [List.take_succ_cons, total_cons, Nat.add_comm]

namespace Bag

variable {b : Bag α} {c : Comparator α} {x : α} {k : Nat}

/-- **The ordinal of a stored element** is where the run of its slot starts. -/
theorem indexOf_element [Std.TransCmp c.compare] (h : b.SoundIn c)
    (hx : b.distinctElements[k]? = some x) : b.indexOf x = some (b.indexer.prefixSum k) := by
  rw [indexOf, h.search_element hx]
  rfl

/-! ### By the number of rejected elements -/

/-- The number of elements that a probe rejects before the first that it accepts. -/
def rejectedLength (b : Bag α) (p : Probe σ α) : StateM σ Nat :=
  p.negate.acceptedLength b.distinctElements

theorem firstAnswered_rejectedLength (b : Bag α) (p : Probe σ α) (state : σ) :
    p.FirstAnswered true b.distinctElements state ((b.rejectedLength p).run state).1 :=
  p.firstAnswered_true b.distinctElements state

theorem findM?_eq (b : Bag α) (p : Probe σ α) :
    b.findM? p = (fun k => b.distinctElements[k]?) <$> b.rejectedLength p :=
  p.findM?_eq b.distinctElements

theorem run_findM? (b : Bag α) (p : Probe σ α) (state : σ) :
    ((b.findM? p).run state).1 = b.distinctElements[((b.rejectedLength p).run state).1]? := by
  rw [findM?_eq]
  rfl

theorem anyM_eq (b : Bag α) (p : Probe σ α) :
    b.anyM p = (fun k => decide (k < b.distinct)) <$> b.rejectedLength p :=
  p.anyM_eq b.distinctElements

theorem noneM_eq (b : Bag α) (p : Probe σ α) : b.noneM p = (! ·) <$> b.anyM p :=
  (map_eq_pure_bind _ _).symm

theorem findOrdinalM?_eq (b : Bag α) (p : Probe σ α) :
    b.findOrdinalM? p =
      (fun k => (Option.guard (fun k => k < b.distinct) k).map b.indexer.prefixSum) <$>
        b.rejectedLength p := by
  rw [findOrdinalM?, Probe.firstSlot_eq, ← map_eq_pure_bind, Functor.map_map]
  rfl

/-! ### What is asked -/

theorem asks_rejectedLength (b : Bag α) (p : Probe σ α) (state : σ) :
    Asks (b.rejectedLength p) (b.rejectedLength p.logged) state
      (b.distinctElements.take (((b.rejectedLength p).run state).1 + 1)) := by
  unfold rejectedLength
  rw [← Probe.logged_negate]
  exact p.negate.asks_acceptedLength b.distinctElements state

theorem asks_findM? (b : Bag α) (p : Probe σ α) (state : σ) :
    Asks (b.findM? p) (b.findM? p.logged) state
      (b.distinctElements.take (((b.rejectedLength p).run state).1 + 1)) := by
  rw [findM?_eq, findM?_eq]
  exact (b.asks_rejectedLength p state).map _

theorem asks_anyM (b : Bag α) (p : Probe σ α) (state : σ) :
    Asks (b.anyM p) (b.anyM p.logged) state
      (b.distinctElements.take (((b.rejectedLength p).run state).1 + 1)) := by
  rw [anyM_eq, anyM_eq]
  exact (b.asks_rejectedLength p state).map _

theorem asks_noneM (b : Bag α) (p : Probe σ α) (state : σ) :
    Asks (b.noneM p) (b.noneM p.logged) state
      (b.distinctElements.take (((b.rejectedLength p).run state).1 + 1)) := by
  rw [noneM_eq, noneM_eq]
  exact (b.asks_anyM p state).map _

theorem asks_findOrdinalM? (b : Bag α) (p : Probe σ α) (state : σ) :
    Asks (b.findOrdinalM? p) (b.findOrdinalM? p.logged) state
      (b.distinctElements.take (((b.rejectedLength p).run state).1 + 1)) := by
  rw [findOrdinalM?_eq, findOrdinalM?_eq]
  exact (b.asks_rejectedLength p state).map _

theorem asks_allM (b : Bag α) (p : Probe σ α) (state : σ) :
    Asks (b.allM p) (b.allM p.logged) state
      (b.distinctElements.take (((p.acceptedLength b.distinctElements).run state).1 + 1)) := by
  rw [allM, allM, Probe.allM_eq, Probe.allM_eq]
  exact (p.asks_acceptedLength b.distinctElements state).map _

/-! ### The answers -/

theorem anyM_eq_isSome_findM? (b : Bag α) (p : Probe σ α) :
    b.anyM p = Option.isSome <$> b.findM? p := by
  rw [anyM_eq, findM?_eq, Functor.map_map]
  refine congrArg (· <$> b.rejectedLength p) (funext fun k => Bool.eq_iff_iff.mpr ?_)
  rw [decide_eq_true_iff, isSome_getElem?]
  rfl

theorem anyM_eq_isSome_findOrdinalM? (b : Bag α) (p : Probe σ α) :
    b.anyM p = Option.isSome <$> b.findOrdinalM? p := by
  rw [anyM_eq, findOrdinalM?_eq, Functor.map_map]
  refine congrArg (· <$> b.rejectedLength p) (funext fun k => ?_)
  rw [Option.isSome_map, Option.isSome_guard]

theorem anyM_eq_not_noneM (b : Bag α) (p : Probe σ α) : b.anyM p = (! ·) <$> b.noneM p := by
  rw [noneM_eq, Functor.map_map]
  simp

theorem allM_eq_noneM_negate (b : Bag α) (p : Probe σ α) : b.allM p = b.noneM p.negate := by
  rw [noneM_eq, allM, List.allM_eq_not_anyM_not]
  rfl

/-- An element that is found is stored, and its ordinal is the one that is found. -/
theorem findOrdinalM?_of_findM? [Std.TransCmp c.compare] (h : b.SoundIn c) (p : Probe σ α) (state : σ)
    (hx : ((b.findM? p).run state).1 = some x) :
    ((b.findOrdinalM? p).run state).1 = b.indexOf x := by
  rw [run_findM?] at hx
  obtain ⟨hlt, -⟩ := List.getElem?_eq_some_iff.mp hx
  have hguard : Option.guard (fun k => k < b.distinct) ((b.rejectedLength p).run state).1 = some _ :=
    Option.guard_eq_some_iff.mpr ⟨rfl, decide_eq_true hlt⟩
  rw [findOrdinalM?_eq, indexOf_element h hx]
  exact congrArg (Option.map b.indexer.prefixSum) hguard

/-- For a plain predicate, the ordinal is the first place of the expanded sequence where it holds. -/
theorem findOrdinalM?_ofPred (h : b.SoundIn c) (q : α → Bool) (state : σ) :
    ((b.findOrdinalM? (.ofPred q)).run state).1 = b.toList.findIdx? q := by
  have hrejected : ((b.rejectedLength (.ofPred q)).run state).1 = b.distinctElements.findIdx q :=
    Probe.acceptedLength_negate_ofPred q b.distinctElements state
  have hslot : (b.entries.findIdx? fun r => q r.1) =
      Option.guard (fun k => k < b.distinct) (b.distinctElements.findIdx q) := by
    rw [← Function.comp_def, ← List.findIdx?_map, Columns.map_fst_entries h.length_eq]
    exact List.findIdx?_eq_guard_findIdx_lt
  have hstarts : (fun i => total (b.entries.take i)) = b.indexer.prefixSum := by
    funext i
    rw [total, List.map_take, Columns.map_snd_entries h.length_eq]
    rfl
  rw [toList, findIdx?_expand h.sortedRuns.positive, hslot, hstarts, ← hrejected, findOrdinalM?_eq]
  rfl

/-- **The scans of a bag agree**, whatever a probe remembers and in whatever state it is.  There is a
first element that it accepts, which `findM?` finds, or it accepts none; `findM?`, `anyM`, `noneM` and
`findOrdinalM?` all ask about the elements up to that one, once each and in order, and about no other.
`allM` asks in this way up to the first that is rejected, and so does `noneM` for the opposite probe.  That
there is an accepted element, that it can be found, that it has an ordinal and that not none is accepted is
one and the same, also in what it leaves in the memory of the probe.  The ordinal is the one of the element
that is found, and for a plain predicate it is the first place in the expanded sequence where the predicate
holds. -/
theorem scans_agree (hb : b.WellFormed) (p : Probe σ α) (state : σ) :
    (∃ k, p.FirstAnswered true b.distinctElements state k ∧
      ((b.findM? p).run state).1 = b.distinctElements[k]? ∧
      Asks (b.findM? p) (b.findM? p.logged) state (b.distinctElements.take (k + 1)) ∧
      Asks (b.anyM p) (b.anyM p.logged) state (b.distinctElements.take (k + 1)) ∧
      Asks (b.noneM p) (b.noneM p.logged) state (b.distinctElements.take (k + 1)) ∧
      Asks (b.findOrdinalM? p) (b.findOrdinalM? p.logged) state (b.distinctElements.take (k + 1))) ∧
    (∃ k, p.FirstAnswered false b.distinctElements state k ∧
      Asks (b.allM p) (b.allM p.logged) state (b.distinctElements.take (k + 1)) ∧
      Asks (b.noneM p.negate) (b.noneM p.logged.negate) state (b.distinctElements.take (k + 1))) ∧
    b.anyM p = Option.isSome <$> b.findM? p ∧
    b.anyM p = Option.isSome <$> b.findOrdinalM? p ∧
    b.anyM p = (! ·) <$> b.noneM p ∧
    b.allM p = b.noneM p.negate ∧
    (Std.TransCmp b.comparator.compare → ∀ x, ((b.findM? p).run state).1 = some x →
      ((b.findOrdinalM? p).run state).1 = b.indexOf x) ∧
    ∀ q, ((b.findOrdinalM? (.ofPred q)).run state).1 = b.toList.findIdx? q := by
  have hasksAll := b.asks_allM p state
  refine ⟨⟨_, b.firstAnswered_rejectedLength p state, b.run_findM? p state, b.asks_findM? p state,
      b.asks_anyM p state, b.asks_noneM p state, b.asks_findOrdinalM? p state⟩,
    ⟨_, p.firstAnswered_acceptedLength b.distinctElements state, hasksAll, ?_⟩,
    b.anyM_eq_isSome_findM? p, b.anyM_eq_isSome_findOrdinalM? p, b.anyM_eq_not_noneM p,
    b.allM_eq_noneM_negate p, ?_, fun q => findOrdinalM?_ofPred hb.soundIn q state⟩
  · rwa [allM_eq_noneM_negate, allM_eq_noneM_negate] at hasksAll
  · intro _ x hx
    exact findOrdinalM?_of_findM? hb.soundIn p state hx

/-- A probe that accepts its second call only.  It is at the third place of the sequence, since the element
in front occurs twice. -/
theorem scans_agree_secondCall :
    let b : Bag Nat := ⟨⟨#[12, 25, 31], #[2, 1, 3], .byKey 0 (· / 10), 6⟩⟩
    let p : Probe Nat Nat := fun _ => do
      let calls ← get
      set (calls + 1)
      return calls == 1
    b.WellFormed ∧ ((b.findM? p).run 0).1 = some 25 ∧
      Asks (b.findOrdinalM? p) (b.findOrdinalM? p.logged) 0 [12, 25] ∧
      Asks (b.allM p) (b.allM p.logged) 0 [12] ∧
      b.indexOf 25 = some 2 ∧ ((b.findOrdinalM? p).run 0).1 = b.indexOf 25 ∧
      ((b.findOrdinalM? (.ofPred (28 < ·))).run 0).1 = [12, 12, 25, 31, 31, 31].findIdx? (28 < ·) := by
  intro b p
  have hb : b.WellFormed := by decide
  have hlawful : Std.TransCmp b.comparator.compare :=
    inferInstanceAs (Std.TransCmp (Comparator.byKey 0 (· / 10) : Comparator Nat).compare)
  have hstored : b.distinctElements[1]? = some 25 := rfl
  obtain ⟨⟨k, hk, hfound, -, -, -, hordinal⟩, ⟨k', hk', hall, -⟩, -, -, -, -, hindex, hpred⟩ :=
    scans_agree hb p 0
  obtain rfl : k = 1 := hk.unique (b.firstAnswered_rejectedLength p 0)
  obtain rfl : k' = 0 := hk'.unique (p.firstAnswered_acceptedLength b.distinctElements 0)
  exact ⟨hb, hfound, hordinal, hall, indexOf_element hb.soundIn hstored, hindex hlawful 25 hfound,
    hpred (28 < ·)⟩

end Bag

end SortedMultiset
