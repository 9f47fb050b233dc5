import SortedMultiset.Columns

/-!
# Changing two columns in step

Inserting, erasing and changing a slot of both columns is inserting, erasing and changing a run.  These
are the equations that carry an edit of the columns over to the runs; no order is involved.
-/

namespace SortedMultiset

variable {α β : Type}

theorem zip_insertIdx (a : α) (b : β) :
    ∀ (i : Nat) (xs : List α) (ys : List β), i ≤ xs.length → i ≤ ys.length →
      (xs.insertIdx i a).zip (ys.insertIdx i b) = (xs.zip ys).insertIdx i (a, b)
  | 0, _, _, _, _ => rfl
  | _ + 1, [], _, h, _ => absurd h (by simp)
  | _ + 1, _ :: _, [], _, h => absurd h (by simp)
  | i + 1, x :: xs, y :: ys, hx, hy => by
    have ih := zip_insertIdx a b i xs ys (by simpa using hx) (by simpa using hy)
    simp [List.insertIdx_succ_cons, ih]

theorem zip_eraseIdx :
    ∀ (i : Nat) (xs : List α) (ys : List β),
      (xs.eraseIdx i).zip (ys.eraseIdx i) = (xs.zip ys).eraseIdx i
  | _, [], _ => by simp
  | 0, _ :: _, [] => by simp
  | _ + 1, _ :: _, [] => by simp
  | 0, _ :: _, _ :: _ => rfl
  | i + 1, x :: xs, y :: ys => by simp [zip_eraseIdx i xs ys]

theorem zip_modify (f : β → β) :
    ∀ (i : Nat) (xs : List α) (ys : List β),
      xs.zip (ys.modify i f) = (xs.zip ys).modify i fun r => (r.1, f r.2)
  | _, [], _ => by simp
  | 0, _ :: _, [] => by simp
  | _ + 1, _ :: _, [] => by simp
  | 0, _ :: _, _ :: _ => rfl
  | i + 1, x :: xs, y :: ys => by simp [zip_modify f i xs ys]

theorem toList_insertIdxIfInBounds {xs : Array α} {i : Nat} (h : i ≤ xs.size) (a : α) :
    (xs.insertIdxIfInBounds i a).toList = xs.toList.insertIdx i a := by
  simp [Array.insertIdxIfInBounds, h]

theorem insertIdx_eq_take_append_drop (a : α) :
    ∀ (i : Nat) (xs : List α), i ≤ xs.length → xs.insertIdx i a = xs.take i ++ a :: xs.drop i
  | 0, _, _ => rfl
  | _ + 1, [], h => absurd h (by simp)
  | i + 1, x :: xs, h => by
    simp [List.insertIdx_succ_cons, insertIdx_eq_take_append_drop a i xs (by simpa using h)]

theorem toList_extract_from (xs : Array α) (i : Nat) :
    (xs.extract i).toList = xs.toList.drop i := by
  rw [Array.toList_extract, List.extract_eq_take_drop]
  exact List.take_of_length_le (by simp)

/-- Splicing a value in is inserting it. -/
theorem toList_splice {xs : Array α} {i : Nat} (h : i ≤ xs.size) (a : α) :
    (xs.extract 0 i ++ #[a] ++ xs.extract i).toList = xs.toList.insertIdx i a := by
  rw [insertIdx_eq_take_append_drop a i xs.toList (by simpa using h), Array.toList_append,
    toList_extract_from]
  simp

/-- Splicing a value out is erasing it. -/
theorem toList_unsplice (xs : Array α) (i : Nat) :
    (xs.extract 0 i ++ xs.extract (i + 1)).toList = xs.toList.eraseIdx i := by
  rw [List.eraseIdx_eq_take_drop_succ, Array.toList_append, toList_extract_from]
  simp

end SortedMultiset
