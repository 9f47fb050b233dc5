import SortedMultiset.Probe

/-!
# What a probe is asked

What a computation asks of a probe is seen by running it with the probe that notes its calls
(`Probe.logged`).  `Asks` says what comes of that: the value and the memory of the probe as without the
notes, and just these calls noted, in this order.  It follows the computation: a value asks nothing
(`Asks.pure`), the probe itself is asked once (`Asks.call`), and what is done in turn asks in turn
(`Asks.bind`).

A probe that is asked about all elements of a list (`Probe.asks_mapM`) gives a list of answers, and the
others are measured by it: the first elements that are accepted are those before the first no among these
answers (`Probe.firstAnswered_acceptedLength`), although nothing behind it is asked about
(`Probe.asks_acceptedLength`).
-/

namespace SortedMultiset

variable {σ α β γ : Type}

/-- Run with the probe that notes its calls, a computation does what it does with the probe, and just
these calls are noted. -/
def Asks (x : StateM σ β) (x' : StateM (σ × List α) β) (state : σ) (calls : List α) : Prop :=
  ∀ noted, x'.run (state, noted) = ((x.run state).1, ((x.run state).2, noted ++ calls))

namespace Asks

variable {x : StateM σ β} {x' : StateM (σ × List α) β} {state : σ} {xs ys : List α}

protected theorem pure (b : β) (state : σ) : Asks (pure b) (pure b) state ([] : List α) := by
  intro noted
  rw [List.append_nil]
  rfl

theorem call (p : Probe σ α) (a : α) (state : σ) : Asks (p a) (p.logged a) state [a] :=
  fun _ => rfl

protected theorem bind {f : β → StateM σ γ} {f' : β → StateM (σ × List α) γ}
    (hx : Asks x x' state xs)
    (hf : Asks (f (x.run state).1) (f' (x.run state).1) (x.run state).2 ys) :
    Asks (x >>= f) (x' >>= f') state (xs ++ ys) := by
  intro noted
  have hrest := hf (noted ++ xs)
  rw [List.append_assoc] at hrest
  rw [StateT.run_bind, hx noted]
  exact hrest

/-- What is made of an answer asks nothing more. -/
theorem bind_pure (hx : Asks x x' state xs) (f : β → γ) :
    Asks (x >>= fun b => pure (f b)) (x' >>= fun b => pure (f b)) state xs := by
  intro noted
  rw [StateT.run_bind, hx noted]
  rfl

theorem map (hx : Asks x x' state xs) (f : β → γ) : Asks (f <$> x) (f <$> x') state xs := by
  rw [map_eq_pure_bind, map_eq_pure_bind]
  exact hx.bind_pure f

end Asks

namespace Probe

variable (p : Probe σ α)

/-! ### About all elements -/

theorem run_mapM_cons (x : α) (xs : List α) (state : σ) :
    ((x :: xs).mapM p).run state =
      (((p x).run state).1 :: ((xs.mapM p).run ((p x).run state).2).1,
        ((xs.mapM p).run ((p x).run state).2).2) := by
  rw [List.mapM_cons]
  rfl

theorem length_mapM (xs : List α) (state : σ) : ((xs.mapM p).run state).1.length = xs.length := by
  induction xs generalizing state with
  | nil => rfl
  | cons x xs ih => rw [run_mapM_cons, List.length_cons, ih, List.length_cons]

/-- The first answers do not depend on what is asked later. -/
theorem mapM_take (xs : List α) (n : Nat) (state : σ) :
    (((xs.take n).mapM p).run state).1 = ((xs.mapM p).run state).1.take n := by
  induction xs generalizing n state with
  | nil =>
    rw [List.take_nil]
    exact List.take_nil.symm
  | cons x xs ih =>
    cases n with
    | zero => rfl
    | succ n => rw [List.take_succ_cons, run_mapM_cons, run_mapM_cons, List.take_succ_cons, ih]

/-- The opposite probe gives the opposite answers. -/
theorem mapM_negate (xs : List α) (state : σ) :
    ((xs.mapM p.negate).run state).1 = ((xs.mapM p).run state).1.map (! ·) := by
  induction xs generalizing state with
  | nil => rfl
  | cons x xs ih =>
    rw [run_mapM_cons, run_mapM_cons, List.map_cons, ← ih]
    rfl

/-- Of the opposite probe, what is noted are the calls of the probe. -/
theorem logged_negate : p.negate.logged = p.logged.negate := rfl

/-- A plain predicate gives its own answers, in any state. -/
theorem mapM_ofPred (q : α → Bool) (xs : List α) (state : σ) :
    ((xs.mapM (ofPred q : Probe σ α)).run state).1 = xs.map q := by
  induction xs generalizing state with
  | nil => rfl
  | cons x xs ih =>
    rw [run_mapM_cons, List.map_cons, ih]
    rfl

/-- **All elements, once each and in order.** -/
theorem asks_mapM (xs : List α) (state : σ) : Asks (xs.mapM p) (xs.mapM p.logged) state xs := by
  induction xs generalizing state with
  | nil => exact .pure [] state
  | cons x xs ih =>
    rw [List.mapM_cons, List.mapM_cons]
    refine (Asks.call p x state).bind ?_
    exact (ih ((p x).run state).2).bind_pure fun answers => ((p x).run state).1 :: answers

/-! ### The first with an answer -/

/-- The slot `k` is the first that is answered by `wanted`; if none is, `k` is the number of elements. -/
structure FirstAnswered (p : Probe σ α) (wanted : Bool) (xs : List α) (state : σ) (k : Nat) : Prop where
  le_length : k ≤ xs.length
  before : ∀ i < k, ((xs.mapM p).run state).1[i]? = some (!wanted)
  here : k < xs.length → ((xs.mapM p).run state).1[k]? = some wanted

section FirstAnswered

variable {p : Probe σ α} {wanted : Bool} {xs : List α} {state : σ} {k k' : Nat}

theorem FirstAnswered.ne_before (h : p.FirstAnswered wanted xs state k) {i : Nat} (hi : i < k) :
    ((xs.mapM p).run state).1[i]? ≠ some wanted := by
  rw [h.before i hi]
  intro heq
  exact (Bool.not_eq_self wanted).mp (Option.some.inj heq)

theorem FirstAnswered.unique (h : p.FirstAnswered wanted xs state k)
    (h' : p.FirstAnswered wanted xs state k') : k = k' := by
  have hle : ∀ {i j : Nat}, p.FirstAnswered wanted xs state i → p.FirstAnswered wanted xs state j →
      i ≤ j := fun hi hj => Nat.le_of_not_lt fun hlt =>
    hi.ne_before hlt (hj.here (Nat.lt_of_lt_of_le hlt hi.le_length))
  exact Nat.le_antisymm (hle h h') (hle h' h)

/-- All elements are passed exactly if none of the answers up to there is the wanted one. -/
theorem FirstAnswered.length_le_iff (h : p.FirstAnswered wanted xs state k) :
    xs.length ≤ k ↔ wanted ∉ (((xs.take (k + 1)).mapM p).run state).1 := by
  rw [mapM_take]
  constructor
  · intro hle hmem
    obtain ⟨i, hi⟩ := List.getElem?_of_mem (List.mem_of_mem_take hmem)
    have hlt : i < xs.length := p.length_mapM xs state ▸ (List.getElem?_eq_some_iff.mp hi).1
    exact h.ne_before (Nat.lt_of_lt_of_le hlt hle) hi
  · intro hmem
    refine Nat.le_of_not_lt fun hlt => hmem ?_
    have hhere := h.here hlt
    rw [← List.getElem?_take_of_lt (Nat.lt_succ_self k)] at hhere
    exact List.mem_of_getElem? hhere

theorem firstAnswered_negate :
    p.negate.FirstAnswered wanted xs state k ↔ p.FirstAnswered (!wanted) xs state k := by
  have hanswer : ∀ (i : Nat) (answer : Bool),
      ((xs.mapM p.negate).run state).1[i]? = some answer ↔
        ((xs.mapM p).run state).1[i]? = some (!answer) := by
    intro i answer
    rw [mapM_negate, List.getElem?_map]
    cases ((xs.mapM p).run state).1[i]? with
    | none => simp
    | some given => cases given <;> cases answer <;> simp
  constructor
  · intro h
    exact ⟨h.le_length, fun i hi => (hanswer i _).mp (h.before i hi),
      fun hk => (hanswer k _).mp (h.here hk)⟩
  · intro h
    exact ⟨h.le_length, fun i hi => (hanswer i _).mpr (h.before i hi),
      fun hk => (hanswer k _).mpr (h.here hk)⟩

end FirstAnswered

/-! ### Up to the first that is rejected -/

theorem acceptedLength_cons (x : α) (xs : List α) :
    p.acceptedLength (x :: xs) =
      p x >>= fun answer =>
        if answer then p.acceptedLength xs >>= fun n => pure (n + 1) else pure 0 :=
  rfl

theorem run_acceptedLength_cons (x : α) (xs : List α) (state : σ) :
    ((p.acceptedLength (x :: xs)).run state).1 =
      if ((p x).run state).1 then ((p.acceptedLength xs).run ((p x).run state).2).1 + 1 else 0 := by
  rw [acceptedLength_cons, StateT.run_bind]
  show ((if ((p x).run state).1 then _ else _ : StateM σ Nat).run _).1 = _
  cases ((p x).run state).1 <;> rfl

/-- **As many elements are accepted** as there are answers before the first no. -/
theorem acceptedLength_eq (xs : List α) (state : σ) :
    ((p.acceptedLength xs).run state).1 = ((xs.mapM p).run state).1.findIdx (! ·) := by
  induction xs generalizing state with
  | nil => rfl
  | cons x xs ih =>
    rw [run_acceptedLength_cons, run_mapM_cons, List.findIdx_cons, ih]
    cases ((p x).run state).1 <;> rfl

/-- **The accepted elements** end at the first that is answered by no. -/
theorem firstAnswered_acceptedLength (xs : List α) (state : σ) :
    p.FirstAnswered false xs state ((p.acceptedLength xs).run state).1 := by
  have hlength := p.length_mapM xs state
  rw [acceptedLength_eq]
  refine ⟨hlength ▸ List.findIdx_le_length, fun i hi => ?_, fun hk => ?_⟩
  · have hanswer := List.not_of_lt_findIdx hi
    rw [List.getElem?_eq_getElem (Nat.lt_of_lt_of_le hi List.findIdx_le_length)]
    simpa using hanswer
  · have hlt : ((xs.mapM p).run state).1.findIdx (! ·) < ((xs.mapM p).run state).1.length :=
      hlength ▸ hk
    have hanswer := List.findIdx_getElem (w := hlt)
    rw [List.getElem?_eq_getElem hlt]
    simpa using hanswer

theorem acceptedLength_le (xs : List α) (state : σ) :
    ((p.acceptedLength xs).run state).1 ≤ xs.length :=
  (p.firstAnswered_acceptedLength xs state).le_length

/-- **The accepted elements and the first that is not**, once each and in order. -/
theorem asks_acceptedLength (xs : List α) (state : σ) :
    Asks (p.acceptedLength xs) (p.logged.acceptedLength xs) state
      (xs.take (((p.acceptedLength xs).run state).1 + 1)) := by
  induction xs generalizing state with
  | nil => exact .pure 0 state
  | cons x xs ih =>
    rw [run_acceptedLength_cons, acceptedLength_cons, acceptedLength_cons, List.take_succ_cons]
    refine (Asks.call p x state).bind ?_
    cases ((p x).run state).1 with
    | true => exact (ih _).bind_pure fun n => n + 1
    | false => exact .pure 0 _

end Probe

end SortedMultiset
