import Mathlib.Data.List.Forall2
import SortedMultiset.Proofs.Reachable

/-!
# Histories of bags and builders

A history is a shelf of bags and builders of one comparator and the answers that were given so far.
Its operations make empty objects, edit bags into new ones, change builders in place, and turn bags
into builders and back.  A `Kit` says how these work, and `Kit.run` plays a list of operations.

Two kits can be played side by side.  If related bags and builders stay related under every
operation of the kits (`Kit.Simulates`), the shelves stay related in every step
(`Kit.Simulates.step`), and so they are after every run (`Kit.Simulates.run`), with the same answers
on both sides.
-/

namespace SortedMultiset

variable {α β γ β' γ' : Type}

/-- A change that makes a new bag. -/
inductive BagEdit (α : Type) where
  | insert (e : α)
  | insertMany (e : α) (n : Nat)
  | erase (e : α)
  | insertAll (items : List α)
  | eraseAll (items : List α)

/-- A change of a builder in place. -/
inductive BuilderEdit (α : Type) where
  | add (e : α)
  | addMany (e : α) (n : Nat)
  | addAll (items : List α)
  | removeMany (e : α) (n : Nat)

/-- An operation on a shelf; `i` is the place of the object that is meant. -/
inductive Op (α : Type) where
  /-- Puts an empty bag on the shelf. -/
  | emptyBag
  /-- Puts an empty builder on the shelf. -/
  | emptyBuilder
  /-- Puts an edited bag beside the one at `i`. -/
  | edit (i : Nat) (f : BagEdit α)
  /-- Changes the builder at `i`. -/
  | fill (i : Nat) (f : BuilderEdit α)
  /-- Puts a builder with the content of the bag at `i` on the shelf. -/
  | thaw (i : Nat)
  /-- Puts a copy of the object at `i` on the shelf. -/
  | copy (i : Nat)
  /-- Puts a bag with the content of the builder at `i` on the shelf. -/
  | snapshot (i : Nat)
  /-- Replaces the builder at `i` by the bag that it builds. -/
  | freeze (i : Nat)

/-- How the operations work on bags of type `β` and builders of type `γ`. -/
structure Kit (α β γ : Type) where
  emptyBag : β
  emptyBuilder : γ
  edit : BagEdit α → β → β
  /-- The answer, if the change gives one, and the changed builder. -/
  fill : BuilderEdit α → γ → Option Bool × γ
  thaw : β → γ
  freeze : γ → β

/-- All objects that were made, and all answers that were given, oldest first. -/
structure History (β γ : Type) where
  shelf : List (Item β γ)
  answers : List (Option Bool)

namespace History

def empty : History β γ := ⟨[], []⟩

/-- Puts an object on the shelf. -/
def put (s : History β γ) (x : Item β γ) : History β γ := ⟨s.shelf ++ [x], s.answers⟩

/-- Puts an object in the place of another. -/
def replace (s : History β γ) (i : Nat) (x : Item β γ) : History β γ := ⟨s.shelf.set i x, s.answers⟩

def answer (s : History β γ) (a : Option Bool) : History β γ := ⟨s.shelf, s.answers ++ [a]⟩

def bagAt (s : History β γ) (i : Nat) : Option β :=
  match s.shelf[i]? with
  | some (.bag b) => some b
  | _ => none

def builderAt (s : History β γ) (i : Nat) : Option γ :=
  match s.shelf[i]? with
  | some (.builder b) => some b
  | _ => none

end History

namespace Kit

/-- One operation; nothing happens where there is no object of the right form. -/
def step (kit : Kit α β γ) (s : History β γ) : Op α → History β γ
  | .emptyBag => s.put (.bag kit.emptyBag)
  | .emptyBuilder => s.put (.builder kit.emptyBuilder)
  | .edit i f => (s.bagAt i).elim s fun b => s.put (.bag (kit.edit f b))
  | .fill i f =>
    (s.builderAt i).elim s fun b =>
      (s.replace i (.builder (kit.fill f b).2)).answer (kit.fill f b).1
  | .thaw i => (s.bagAt i).elim s fun b => s.put (.builder (kit.thaw b))
  | .copy i => s.shelf[i]?.elim s s.put
  | .snapshot i => (s.builderAt i).elim s fun b => s.put (.bag (kit.freeze b))
  | .freeze i => (s.builderAt i).elim s fun b => s.replace i (.bag (kit.freeze b))

/-- Plays operations from an empty shelf. -/
def run (kit : Kit α β γ) (ops : List (Op α)) : History β γ := ops.foldl kit.step .empty

end Kit

/-! ### Simulation -/

/-- Two objects of one form that are related as bags or as builders. -/
inductive Item.Rel (R : β → β' → Prop) (S : γ → γ' → Prop) : Item β γ → Item β' γ' → Prop
  | bag {b : β} {b' : β'} : R b b' → Item.Rel R S (.bag b) (.bag b')
  | builder {b : γ} {b' : γ'} : S b b' → Item.Rel R S (.builder b) (.builder b')

/-- Related shelves, and the same answers. -/
structure History.Rel (R : β → β' → Prop) (S : γ → γ' → Prop) (s : History β γ)
    (s' : History β' γ') : Prop where
  shelf : List.Forall₂ (Item.Rel R S) s.shelf s'.shelf
  answers : s.answers = s'.answers

/-- Related bags and builders stay related under all operations of the kits. -/
structure Kit.Simulates (kit : Kit α β γ) (kit' : Kit α β' γ') (R : β → β' → Prop)
    (S : γ → γ' → Prop) : Prop where
  emptyBag : R kit.emptyBag kit'.emptyBag
  emptyBuilder : S kit.emptyBuilder kit'.emptyBuilder
  edit : ∀ f b b', R b b' → R (kit.edit f b) (kit'.edit f b')
  fill : ∀ f b b', S b b' →
    (kit.fill f b).1 = (kit'.fill f b').1 ∧ S (kit.fill f b).2 (kit'.fill f b').2
  thaw : ∀ b b', R b b' → S (kit.thaw b) (kit'.thaw b')
  freeze : ∀ b b', S b b' → R (kit.freeze b) (kit'.freeze b')

section Rel

variable {R : β → β' → Prop} {S : γ → γ' → Prop} {s : History β γ} {s' : History β' γ'}

theorem forall₂_getElem? {x : List β} {y : List β'} (h : List.Forall₂ R x y) (i : Nat) :
    Option.Rel R x[i]? y[i]? := by
  induction h generalizing i with
  | nil => exact .none
  | cons hb _ ih =>
    cases i with
    | zero => exact .some hb
    | succ i => exact ih i

theorem forall₂_set {x : List β} {y : List β'} {b : β} {b' : β'} (h : List.Forall₂ R x y) (i : Nat)
    (hb : R b b') : List.Forall₂ R (x.set i b) (y.set i b') := by
  induction h generalizing i with
  | nil => exact .nil
  | cons hhead htail ih =>
    cases i with
    | zero => exact .cons hb htail
    | succ i => exact .cons hhead (ih i)

theorem History.Rel.put (h : s.Rel R S s') {x : Item β γ} {y : Item β' γ'} (hx : Item.Rel R S x y) :
    (s.put x).Rel R S (s'.put y) :=
  ⟨List.rel_append h.shelf (.cons hx .nil), h.answers⟩

theorem History.Rel.replace (h : s.Rel R S s') (i : Nat) {x : Item β γ} {y : Item β' γ'}
    (hx : Item.Rel R S x y) : (s.replace i x).Rel R S (s'.replace i y) :=
  ⟨forall₂_set h.shelf i hx, h.answers⟩

theorem History.Rel.bagAt (h : s.Rel R S s') (i : Nat) :
    Option.Rel R (s.bagAt i) (s'.bagAt i) := by
  have hi := forall₂_getElem? h.shelf i
  unfold History.bagAt
  generalize s.shelf[i]? = o, s'.shelf[i]? = o' at hi
  rcases hi with (hb | hb) | _
  · exact .some hb
  · exact .none
  · exact .none

theorem History.Rel.builderAt (h : s.Rel R S s') (i : Nat) :
    Option.Rel S (s.builderAt i) (s'.builderAt i) := by
  have hi := forall₂_getElem? h.shelf i
  unfold History.builderAt
  generalize s.shelf[i]? = o, s'.shelf[i]? = o' at hi
  rcases hi with (hb | hb) | _
  · exact .none
  · exact .some hb
  · exact .none

/-- What is done with related objects, or else not done on both sides. -/
theorem History.Rel.elim {δ δ' : Type} {T : δ → δ' → Prop} {o : Option δ} {o' : Option δ'}
    {act : δ → History β γ} {act' : δ' → History β' γ'} (h : s.Rel R S s') (ho : Option.Rel T o o')
    (hact : ∀ x y, T x y → (act x).Rel R S (act' y)) :
    (o.elim s act).Rel R S (o'.elim s' act') := by
  cases ho with
  | some hxy => exact hact _ _ hxy
  | none => exact h

theorem History.Rel.answer (h : s.Rel R S s') (a : Option Bool) :
    (s.answer a).Rel R S (s'.answer a) :=
  ⟨h.shelf, congrArg (fun answers => answers ++ [a]) h.answers⟩

variable {kit : Kit α β γ} {kit' : Kit α β' γ'}

/-- **A step keeps shelves related.** -/
theorem Kit.Simulates.step (hk : kit.Simulates kit' R S) (h : s.Rel R S s') (op : Op α) :
    (kit.step s op).Rel R S (kit'.step s' op) := by
  cases op with
  | emptyBag => exact h.put (.bag hk.emptyBag)
  | emptyBuilder => exact h.put (.builder hk.emptyBuilder)
  | edit i f => exact h.elim (h.bagAt i) fun b b' hb => h.put (.bag (hk.edit f b b' hb))
  | fill i f =>
    refine h.elim (h.builderAt i) fun b b' hb => ?_
    obtain ⟨hanswer, hfilled⟩ := hk.fill f b b' hb
    rw [hanswer]
    exact (h.replace i (.builder hfilled)).answer _
  | thaw i => exact h.elim (h.bagAt i) fun b b' hb => h.put (.builder (hk.thaw b b' hb))
  | copy i => exact h.elim (forall₂_getElem? h.shelf i) fun x y hxy => h.put hxy
  | snapshot i => exact h.elim (h.builderAt i) fun b b' hb => h.put (.bag (hk.freeze b b' hb))
  | freeze i => exact h.elim (h.builderAt i) fun b b' hb => h.replace i (.bag (hk.freeze b b' hb))

theorem Kit.Simulates.foldl (hk : kit.Simulates kit' R S) (ops : List (Op α))
    (h : s.Rel R S s') : (ops.foldl kit.step s).Rel R S (ops.foldl kit'.step s') := by
  induction ops generalizing s s' with
  | nil => exact h
  | cons op ops ih => exact ih (hk.step h op)

/-- **A run keeps shelves related**, from the empty ones on. -/
theorem Kit.Simulates.run (hk : kit.Simulates kit' R S) (ops : List (Op α)) :
    (kit.run ops).Rel R S (kit'.run ops) :=
  hk.foldl ops ⟨.nil, rfl⟩

end Rel

end SortedMultiset
