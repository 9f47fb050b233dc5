import SortedMultiset.Proofs.Probe

/-!
# Scans that stop

A scan that asks about the elements of a list in turn and stops at the first no is determined by the
number of elements that are accepted: what it answers is made of that number, and it asks what counting
them asks (`Probe.eq_map_acceptedLength`).  A scan that stops at the first yes is one for the opposite
probe.  So scans that look for the same answer differ in their result only.

* `Probe.allM_eq`, `Probe.anyM_eq`, `Probe.findM?_eq`, `Probe.firstSlot_eq`: the scans of a list, by the
  number of accepted elements;
* `Probe.firstAnswered_true`: where a scan for a yes stops.
-/

namespace SortedMultiset.Probe

variable {σ α β : Type}

/-! ### Scans by the number of accepted elements -/

/-- A scan that goes on after a yes and is over after a no asks as counting the accepted elements does,
and gives a value for their number. -/
theorem eq_map_acceptedLength {scan : List α → StateM σ β} (p : Probe σ α)
    (value : List α → Nat → β) (lift : β → β) (hnil : scan [] = pure (value [] 0))
    (hcons : ∀ x xs, scan (x :: xs) =
      p x >>= fun answer => if answer then lift <$> scan xs else pure (value (x :: xs) 0))
    (hvalue : ∀ x xs k, value (x :: xs) (k + 1) = lift (value xs k)) (xs : List α) :
    scan xs = value xs <$> p.acceptedLength xs := by
  induction xs with
  | nil => exact hnil
  | cons x xs ih =>
    rw [hcons, acceptedLength_cons, map_bind]
    refine bind_congr fun answer => ?_
    cases answer with
    | true =>
      rw [if_pos rfl, if_pos rfl, ih, ← map_eq_pure_bind, Functor.map_map, Functor.map_map]
      exact congrArg (· <$> p.acceptedLength xs) (funext fun k => (hvalue x xs k).symm)
    | false => rfl

/-- What is done with the opposite answer. -/
theorem bind_negate (p : Probe σ α) (x : α) (f : Bool → StateM σ β) :
    p.negate x >>= f = p x >>= fun answer => f (!answer) := rfl

theorem allM_eq (p : Probe σ α) (xs : List α) :
    xs.allM p = (fun k => decide (xs.length ≤ k)) <$> p.acceptedLength xs := by
  refine p.eq_map_acceptedLength (fun xs k => decide (xs.length ≤ k)) id rfl (fun x xs => ?_)
    (fun x xs k => ?_) xs
  · rw [List.allM_cons]
    refine bind_congr fun answer => ?_
    cases answer <;> rfl
  · exact decide_eq_decide.mpr Nat.succ_le_succ_iff

theorem anyM_eq (p : Probe σ α) (xs : List α) :
    xs.anyM p = (fun k => decide (k < xs.length)) <$> p.negate.acceptedLength xs := by
  refine p.negate.eq_map_acceptedLength (fun xs k => decide (k < xs.length)) id rfl (fun x xs => ?_)
    (fun x xs k => ?_) xs
  · rw [List.anyM_cons, bind_negate]
    refine bind_congr fun answer => ?_
    cases answer <;> rfl
  · exact decide_eq_decide.mpr Nat.succ_lt_succ_iff

theorem findM?_eq (p : Probe σ α) (xs : List α) :
    xs.findM? p = (fun k => xs[k]?) <$> p.negate.acceptedLength xs := by
  refine p.negate.eq_map_acceptedLength (fun xs k => xs[k]?) id rfl (fun x xs => ?_)
    (fun x xs k => ?_) xs
  · rw [bind_negate, List.findM?]
    refine bind_congr fun answer => ?_
    cases answer <;> rfl
  · exact List.getElem?_cons_succ

/-- The slot is counted from the front, one more for each element that is passed. -/
theorem firstSlot_eq (p : Probe σ α) (xs : List α) :
    p.firstSlot xs = Option.guard (fun k => k < xs.length) <$> p.negate.acceptedLength xs := by
  refine p.negate.eq_map_acceptedLength (fun xs => Option.guard fun k => k < xs.length)
    (Option.map (· + 1)) rfl (fun x xs => ?_) (fun x xs k => ?_) xs
  · rw [bind_negate, firstSlot]
    refine bind_congr fun answer => ?_
    cases answer <;> rfl
  · by_cases hk : k < xs.length <;> simp [Option.guard, hk]

/-! ### Where a scan for a yes stops -/

/-- What the opposite probe accepts ends at the first that is answered by yes. -/
theorem firstAnswered_true (p : Probe σ α) (xs : List α) (state : σ) :
    p.FirstAnswered true xs state ((p.negate.acceptedLength xs).run state).1 :=
  firstAnswered_negate.mp (p.negate.firstAnswered_acceptedLength xs state)

/-- For a plain predicate it is the first slot at which the predicate holds. -/
theorem acceptedLength_negate_ofPred (q : α → Bool) (xs : List α) (state : σ) :
    (((ofPred q).negate.acceptedLength xs).run state).1 = xs.findIdx q := by
  rw [acceptedLength_eq, mapM_negate, mapM_ofPred, List.findIdx_map, List.findIdx_map]
  exact congrArg (xs.findIdx ·) (funext fun x => Bool.not_not (q x))

end SortedMultiset.Probe
