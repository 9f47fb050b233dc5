import Mathlib.Data.List.Forall2
import SortedMultiset.Bag.Scan
import SortedMultiset.Proofs.Cursor
import SortedMultiset.Proofs.Scan

/-!
# What a scan decides

The walk of `Bag.corresponds` along a cursor is a walk over the list that the cursor yields
(`Bag.matchesAlong_eq`).  So a bag corresponds to a list of its length if no pair of an element of the
expanded sequence and the item at its place is rejected (`Bag.corresponds_eq`).

A probe of two arguments may remember as well.  It is seen as a probe of pairs, and the walk as a scan of
the sequence and the list side by side, which stops at the first pair that is rejected.

* `Bag.corresponds_place_by_place`: which pairs are asked about, and what is answered.
-/

namespace SortedMultiset.Bag

variable {σ α γ : Type} {b : Bag α}

/-- **Walking along a cursor** is walking along the list it yields. -/
theorem matchesAlong_eq {c : ElementCursor α} {xs : List α} (h : Cursor.Yields c xs)
    (p : α → γ → StateM σ Bool) (ys : List γ) :
    matchesAlong p c ys = (xs.zip ys).allM fun pair => p pair.1 pair.2 := by
  induction h generalizing ys with
  | @done c hnext _ =>
    have hnext : c.next? = none := hnext
    cases ys with
    | nil => rfl
    | cons y ys =>
      rw [matchesAlong, hnext]
      rfl
  | @item c c' x xs hnext _ _ ih =>
    have hnext : c.next? = some (x, c') := hnext
    cases ys with
    | nil => rfl
    | cons y ys =>
      rw [matchesAlong, hnext, List.zip_cons_cons, List.allM]
      refine bind_congr fun answer => ?_
      cases answer with
      | true => exact ih ys
      | false => rfl

/-- **Correspondence** is acceptance of every pair, place by place, of a list of the right length. -/
theorem corresponds_eq (h : b.WellFormed) (items : List γ) (p : α → γ → StateM σ Bool) :
    b.corresponds items p =
      if items.length = b.size then (b.toList.zip items).allM fun pair => p pair.1 pair.2
      else pure false := by
  unfold corresponds
  rw [matchesAlong_eq (ElementCursor.yields_start h.tallied)]
  rfl

/-- For a plain predicate, correspondence is that it holds place by place. -/
theorem corresponds_ofPred (h : b.WellFormed) (items : List γ) (p : α → γ → Bool) (state : σ) :
    ((b.corresponds items fun x y => pure (p x y)).run state).1 = true ↔
      List.Forall₂ (fun x y => p x y = true) b.toList items := by
  rw [List.forall₂_iff_zip, length_toList h, corresponds_eq h, List.allM_pure]
  split_ifs with hlen
  · show (b.toList.zip items).all (fun pair => p pair.1 pair.2) = true ↔ _
    rw [List.all_eq_true, and_iff_right hlen.symm]
    exact ⟨fun hall x y hxy => hall (x, y) hxy, fun hall pair hpair => hall hpair⟩
  · exact iff_of_false Bool.false_ne_true fun hall => hlen hall.1.symm

/-- A list of the right length corresponds exactly if no answer up to the end of the walk is a no. -/
theorem corresponds_iff_of_length (h : b.WellFormed) {items : List γ} (hlen : items.length = b.size)
    {p : Probe σ (α × γ)} {state : σ} {k : Nat} (hk : p.FirstAnswered false (b.toList.zip items) state k) :
    ((b.corresponds items fun x y => p (x, y)).run state).1 = true ↔
      false ∉ ((((b.toList.zip items).take (k + 1)).mapM p).run state).1 := by
  have hfirst := p.firstAnswered_acceptedLength (b.toList.zip items) state
  rw [corresponds_eq h, if_pos hlen, Probe.allM_eq, ← hk.length_le_iff, hk.unique hfirst]
  exact decide_eq_true_iff

/-- **Correspondence goes place by place**, whatever a probe remembers and in whatever state it is.  With a
list as long as the expanded sequence, it asks about the pairs of an element and the item at its place, in
order, up to the first pair that is rejected, and about no other; with another list it asks nothing.  It
holds exactly if the list has that length and no call was answered by no. -/
theorem corresponds_place_by_place (hb : b.WellFormed) (items : List γ) (p : Probe σ (α × γ))
    (state : σ) :
    ∃ calls,
      Asks (b.corresponds items fun x y => p (x, y)) (b.corresponds items fun x y => p.logged (x, y))
        state calls ∧
      (items.length = b.size → ∃ k, p.FirstAnswered false (b.toList.zip items) state k ∧
        calls = (b.toList.zip items).take (k + 1)) ∧
      (items.length ≠ b.size → calls = []) ∧
      (((b.corresponds items fun x y => p (x, y)).run state).1 = true ↔
        items.length = b.size ∧ false ∉ ((calls.mapM p).run state).1) := by
  by_cases hlen : items.length = b.size
  · have hfirst := p.firstAnswered_acceptedLength (b.toList.zip items) state
    refine ⟨_, ?_, fun _ => ⟨_, hfirst, rfl⟩, fun hne => absurd hlen hne, ?_⟩
    · rw [corresponds_eq hb, corresponds_eq hb, if_pos hlen, if_pos hlen, Probe.allM_eq, Probe.allM_eq]
      exact (p.asks_acceptedLength (b.toList.zip items) state).map _
    · rw [corresponds_iff_of_length hb hlen hfirst, and_iff_right hlen]
  · refine ⟨[], ?_, fun heq => absurd heq hlen, fun _ => rfl, ?_⟩
    · rw [corresponds_eq hb, corresponds_eq hb, if_neg hlen, if_neg hlen]
      exact .pure false state
    · rw [corresponds_eq hb, if_neg hlen]
      exact iff_of_false Bool.false_ne_true fun h => hlen h.1

/-- A probe that rejects its third call only, over a run boundary.  The last pair is not asked about; a
list that is too short is not looked at. -/
theorem corresponds_place_by_place_thirdCall :
    let b : Bag Nat := ⟨⟨#[12, 25], #[2, 2], .byKey 0 (· / 10), 4⟩⟩
    let p : Probe Nat (Nat × Char) := fun _ => do
      let calls ← get
      set (calls + 1)
      return calls != 2
    b.WellFormed ∧
      Asks (b.corresponds ['a', 'b', 'c', 'd'] fun x y => p (x, y))
        (b.corresponds ['a', 'b', 'c', 'd'] fun x y => p.logged (x, y)) 0 [(12, 'a'), (12, 'b'), (25, 'c')] ∧
      Asks (b.corresponds ['a', 'b', 'c'] fun x y => p (x, y))
        (b.corresponds ['a', 'b', 'c'] fun x y => p.logged (x, y)) 0 [] := by
  intro b p
  have hb : b.WellFormed := by decide
  obtain ⟨calls, hasks, hfull, -, -⟩ := corresponds_place_by_place hb ['a', 'b', 'c', 'd'] p 0
  obtain ⟨calls', hasks', -, hother, -⟩ := corresponds_place_by_place hb ['a', 'b', 'c'] p 0
  obtain ⟨k, hk, rfl⟩ := hfull rfl
  obtain rfl : k = 2 := hk.unique (p.firstAnswered_acceptedLength _ 0)
  obtain rfl := hother (by decide)
  exact ⟨hb, hasks, hasks'⟩

end SortedMultiset.Bag
