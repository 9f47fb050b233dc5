/-!
# Binary search

`search compareTo xs` looks for an element in an ascending array; `compareTo x` tells how the stored
element `x` compares to the one that is looked for.  The answer is a `Slot`: where the element is, or
where it would have to be inserted to keep the array ascending.

The window `[lo, hi)` shrinks around the slot, and a hit ends the search at once.

* `Slot.Fits`: what the answer means, for any list of stored elements;
* `Ascends`: from the first element on that is not less, all later ones are greater;
* `search_fits`: on an ascending array the answer fits.
-/

namespace SortedMultiset

/-- Where an element is, or where it belongs. -/
inductive Slot where
  /-- The element is stored at `i`. -/
  | found (i : Nat)
  /-- The element is not stored and belongs before slot `i`. -/
  | absent (i : Nat)
  deriving DecidableEq, Repr

variable {α : Type}

namespace Slot

/-- The slot of a stored element. -/
def found? : Slot → Option Nat
  | found i => some i
  | absent _ => none

def isFound : Slot → Bool
  | found _ => true
  | absent _ => false

/-- The slot is right for a list: a found element matches, with less before and greater after it; an
absent one has less before its place and greater from there on. -/
def Fits (compareTo : α → Ordering) (xs : List α) : Slot → Prop
  | found i =>
    (∀ x ∈ xs.take i, compareTo x = .lt) ∧ (∃ x, xs[i]? = some x ∧ compareTo x = .eq) ∧
      ∀ x ∈ xs.drop (i + 1), compareTo x = .gt
  | absent i =>
    i ≤ xs.length ∧ (∀ x ∈ xs.take i, compareTo x = .lt) ∧ ∀ x ∈ xs.drop i, compareTo x = .gt

end Slot

/-- Searches the window `[lo, hi)`. -/
def searchWindow (compareTo : α → Ordering) (xs : Array α) (lo hi : Nat) (bound : hi ≤ xs.size) :
    Slot :=
  if h : lo < hi then
    let mid := lo + (hi - lo) / 2
    have : mid < xs.size := by omega
    match compareTo xs[mid] with
    | .eq => .found mid
    | .lt => searchWindow compareTo xs (mid + 1) hi bound
    | .gt => searchWindow compareTo xs lo mid (by omega)
  else
    .absent lo
termination_by hi - lo

/-- Searches the whole array. -/
def search (compareTo : α → Ordering) (xs : Array α) : Slot :=
  searchWindow compareTo xs 0 xs.size (Nat.le_refl _)

/-! ### What the answer means -/

/-- Stored elements ascend as seen from the one that is looked for: after an element that is not less,
everything is greater. -/
def Ascends (compareTo : α → Ordering) (xs : List α) : Prop :=
  xs.Pairwise fun a b => compareTo a ≠ .lt → compareTo b = .gt

theorem Ascends.getElem_gt {compareTo : α → Ordering} {xs : Array α}
    (h : Ascends compareTo xs.toList) {i j : Nat} (hij : i < j) (hj : j < xs.size)
    (hi : compareTo xs[i] ≠ .lt) : compareTo xs[j] = .gt :=
  List.pairwise_iff_getElem.mp h i j (by simp; omega) (by simpa using hj) hij
    (by simpa using hi)

theorem Ascends.getElem_lt {compareTo : α → Ordering} {xs : Array α}
    (h : Ascends compareTo xs.toList) {i j : Nat} (hij : i < j) (hj : j < xs.size)
    (hi : compareTo xs[j] ≠ .gt) : compareTo xs[i] = .lt :=
  Decidable.byContradiction fun hlt => hi (h.getElem_gt hij hj hlt)

private theorem forall_mem_take {compareTo : α → Ordering} {xs : Array α} {i : Nat} {o : Ordering}
    (h : ∀ j (hj : j < xs.size), j < i → compareTo xs[j] = o) :
    ∀ x ∈ xs.toList.take i, compareTo x = o := by
  intro x hx
  obtain ⟨j, hj, rfl⟩ := List.mem_iff_getElem.mp hx
  simp only [List.length_take, Array.length_toList] at hj
  simpa using h j (by omega) (by omega)

private theorem forall_mem_drop {compareTo : α → Ordering} {xs : Array α} {i : Nat} {o : Ordering}
    (h : ∀ j (hj : j < xs.size), i ≤ j → compareTo xs[j] = o) :
    ∀ x ∈ xs.toList.drop i, compareTo x = o := by
  intro x hx
  obtain ⟨j, hj, rfl⟩ := List.mem_iff_getElem.mp hx
  simp only [List.length_drop, Array.length_toList] at hj
  simpa using h (i + j) (by omega) (by omega)

theorem searchWindow_fits {compareTo : α → Ordering} {xs : Array α}
    (h : Ascends compareTo xs.toList) {lo hi : Nat} (hle : lo ≤ hi) (bound : hi ≤ xs.size)
    (below : ∀ j (hj : j < xs.size), j < lo → compareTo xs[j] = .lt)
    (above : ∀ j (hj : j < xs.size), hi ≤ j → compareTo xs[j] = .gt) :
    (searchWindow compareTo xs lo hi bound).Fits compareTo xs.toList := by
  fun_induction searchWindow compareTo xs lo hi bound with
  | case1 lo hi bound hlt mid hmid heq =>
    have before : ∀ j (hj : j < xs.size), j < mid → compareTo xs[j] = .lt := fun j _ hjm =>
      h.getElem_lt hjm hmid (by rw [heq]; simp)
    have after : ∀ j (hj : j < xs.size), mid + 1 ≤ j → compareTo xs[j] = .gt := fun j hj hjm =>
      h.getElem_gt hjm hj (by rw [heq]; simp)
    exact ⟨forall_mem_take before, ⟨xs[mid], by simp, heq⟩, forall_mem_drop after⟩
  | case2 lo hi bound hlt mid hmid heq ih =>
    refine ih (by omega) (fun j hj hjm => ?_) above
    rcases Nat.lt_or_eq_of_le (Nat.le_of_lt_succ hjm) with hjm | rfl
    · exact h.getElem_lt hjm hmid (by rw [heq]; simp)
    · exact heq
  | case3 lo hi bound hlt mid hmid heq ih =>
    refine ih (by omega) below (fun j hj hjm => ?_)
    rcases Nat.lt_or_eq_of_le hjm with hjm | rfl
    · exact h.getElem_gt hjm hj (by rw [heq]; simp)
    · exact heq
  | case4 lo hi bound hlt =>
    have hlo : lo = hi := by omega
    subst hlo
    exact ⟨by simpa using bound, forall_mem_take below, forall_mem_drop above⟩

/-- **The answer of a search.**  On an ascending array it fits. -/
theorem search_fits {compareTo : α → Ordering} {xs : Array α} (h : Ascends compareTo xs.toList) :
    (search compareTo xs).Fits compareTo xs.toList :=
  searchWindow_fits h (Nat.zero_le _) (Nat.le_refl _) (fun _ _ hj => absurd hj (by omega))
    fun _ hj hle => absurd hj (by omega)

end SortedMultiset
