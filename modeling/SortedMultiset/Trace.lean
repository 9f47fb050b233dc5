/-!
# Trace records

An operation that reshapes a bag reports what it did as a list of `Record`s, in the order in which
the steps happen.  `Traced` carries a value together with its records; it is a monad, so records of
successive steps are chained by `do`.

* `Traced.value_bind`, `Traced.records_bind`: values compose, records concatenate;
* the monad laws hold (`LawfulMonad Traced`).
-/

namespace SortedMultiset

/-- One step of an operation, as seen from outside. -/
inductive Record where
  /-- A builder with `distinct` distinct elements and `total` occurrences is frozen. -/
  | freezing (distinct total : Nat)
  /-- A new slot is spliced in before slot `slot` of `distinct`. -/
  | spliceInsert (slot distinct : Nat)
  /-- Slot `slot` of `distinct` is spliced out. -/
  | spliceRemove (slot distinct : Nat)
  /-- A bag of `distinct` slots is cut before slot `slot`. -/
  | boundary (slot distinct : Nat)
  deriving DecidableEq, Repr

/-- The text of a record. -/
def Record.message : Record → String
  | freezing distinct total =>
    "freezing builder: " ++ toString distinct ++ " distinct, " ++ toString total ++ " total"
  | spliceInsert slot distinct => "splice-insert at " ++ toString slot ++ " of " ++ toString distinct
  | spliceRemove slot distinct => "splice-remove at " ++ toString slot ++ " of " ++ toString distinct
  | boundary slot distinct =>
    "partition boundary " ++ toString slot ++ " of " ++ toString distinct

/-- A value and the records of the steps that led to it, oldest first. -/
structure Traced (β : Type) where
  value : β
  records : List Record
  deriving DecidableEq, Repr

namespace Traced

variable {β γ : Type}

/-- The value, with nothing to report. -/
protected def pure (b : β) : Traced β := ⟨b, []⟩

/-- Continues with the value; the new records follow the old ones. -/
protected def bind (t : Traced β) (f : β → Traced γ) : Traced γ :=
  ⟨(f t.value).value, t.records ++ (f t.value).records⟩

instance : Monad Traced where
  pure := Traced.pure
  bind := Traced.bind

/-- Reports one record. -/
def emit (r : Record) : Traced Unit := ⟨(), [r]⟩

@[simp] theorem value_pure (b : β) : (pure b : Traced β).value = b := rfl

@[simp] theorem records_pure (b : β) : (pure b : Traced β).records = [] := rfl

@[simp] theorem value_bind (t : Traced β) (f : β → Traced γ) :
    (t >>= f).value = (f t.value).value := rfl

@[simp] theorem records_bind (t : Traced β) (f : β → Traced γ) :
    (t >>= f).records = t.records ++ (f t.value).records := rfl

@[simp] theorem value_emit (r : Record) : (emit r).value = () := rfl

@[simp] theorem records_emit (r : Record) : (emit r).records = [r] := rfl

@[simp] theorem value_map (f : β → γ) (t : Traced β) : (f <$> t).value = f t.value := rfl

@[simp] theorem records_map (f : β → γ) (t : Traced β) : (f <$> t).records = t.records := by
  simp [Functor.map, Traced.bind, Traced.pure]

theorem ext {s t : Traced β} (hv : s.value = t.value) (hr : s.records = t.records) : s = t := by
  cases s; cases t; simp_all

instance : LawfulMonad Traced := LawfulMonad.mk' Traced
  (fun _ => ext rfl (by simp))
  (fun _ _ => ext rfl (by simp))
  (fun _ _ _ => ext rfl (by simp))

end Traced

end SortedMultiset
