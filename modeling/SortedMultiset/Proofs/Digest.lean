import SortedMultiset.Digest.Element
import SortedMultiset.Proofs.Equality

/-!
# Content hashes

A content hash adds up one word for every entry (`digestRuns`), so it does not depend on the order in
which the entries are listed (`digest_eq_of_perm`).  Equal multisets list the same entries if their comparators
find only identical elements equal.  So they hash alike, in whatever form and order, and a bag that is
an element of another multiset is hashed as any bag equal to it (`digest_eq_of_equals`).  Nothing is asked
of the hash of an element or of the hash of bytes: they are functions.
-/

namespace SortedMultiset

variable {α β γ : Type} [BagLike β α] [BagLike γ α] {x : β} {y : γ} {rs ss : List (α × Nat)}

/-! ### The words of runs -/

/-- The content hash of runs: one word for each of them, added up. -/
def digestRuns (hash : α → UInt64) (runs : List (α × Nat)) : UInt64 :=
  runs.foldl (fun acc r => acc + (hash r.1 ^^^ UInt64.ofNat r.2)) 0

theorem digestRuns_perm (h : rs.Perm ss) (hash : α → UInt64) :
    digestRuns hash rs = digestRuns hash ss := by
  refine h.foldl_eq' (fun r _ s _ acc => ?_) 0
  rw [UInt64.add_assoc, UInt64.add_assoc, UInt64.add_comm (hash r.1 ^^^ _)]

theorem foldl_words (hash : α → UInt64) (rs : List (α × Nat)) (start : UInt64) :
    rs.foldl (fun acc r => acc + (hash r.1 ^^^ UInt64.ofNat r.2)) start =
      start + digestRuns hash rs := by
  unfold digestRuns
  induction rs generalizing start with
  | nil => exact (UInt64.add_zero start).symm
  | cons r rs ih => rw [List.foldl_cons, List.foldl_cons, ih, ih (0 + _), UInt64.zero_add, UInt64.add_assoc]

theorem digestRuns_append (hash : α → UInt64) (rs ss : List (α × Nat)) :
    digestRuns hash (rs ++ ss) = digestRuns hash rs + digestRuns hash ss := by
  rw [digestRuns, List.foldl_append, foldl_words]
  rfl

/-- A run adds its word, wherever it stands. -/
theorem digestRuns_middle (hash : α → UInt64) (r : α × Nat) (rs ss : List (α × Nat)) :
    digestRuns hash (rs ++ r :: ss) =
      digestRuns hash (rs ++ ss) + (hash r.1 ^^^ UInt64.ofNat r.2) := by
  rw [digestRuns_perm List.perm_middle, digestRuns, List.foldl_cons, foldl_words, UInt64.zero_add,
    UInt64.add_comm]

/-! ### Equal multisets -/

theorem digest_eq_of_perm (h : (BagLike.entries x).Perm (BagLike.entries y)) (hash : α → UInt64) :
    BagLike.digest hash x = BagLike.digest hash y :=
  digestRuns_perm h hash

/-- Equal multisets list the same entries if every element is told from all others. -/
theorem Faithful.digest_eq (hx : Faithful id x) (hy : Faithful id y)
    (h : BagLike.equals x y = true) (hash : α → UInt64) :
    BagLike.digest hash x = BagLike.digest hash y := by
  have hperm := (hx.equals_iff_perm hy).mp h
  rw [keyedEntries_id, keyedEntries_id] at hperm
  exact digest_eq_of_perm hperm hash

/-- A bag as an element writes its content hash and nothing else. -/
theorem write_eq_of_digest_eq {hash : α → UInt64} {a b : Bag α}
    (h : BagLike.digest hash a = BagLike.digest hash b) (out : ByteArray) :
    a.write hash out = b.write hash out :=
  congrArg (ByteStream.writeWord out) h

/-- **Equal multisets hash alike**, whatever the hash of an element is: sound bags and builders whose
comparators find only identical elements equal, in whatever orders, and maps of counts, whatever
zeros stand in them and in whatever order they are listed.  So bags that are equal write the same
bytes as elements, and have one hash, whatever the hash of bytes is; `elementHash` takes one of them. -/
theorem digest_eq_of_equals [DecidableEq α] :
    (∀ x y : Holding α, x.Sound identical → y.Sound identical → BagLike.equals x y = true →
      ∀ hash : α → UInt64, BagLike.digest hash x = BagLike.digest hash y) ∧
    ∀ a b : Bag α, a.SoundUpTo identical → b.SoundUpTo identical → BagLike.equals a b = true →
      ∀ hash : α → UInt64, (∀ out, a.write hash out = b.write hash out) ∧
        ∀ hashBytes,
          hashWritten hashBytes (Bag.write hash) a = hashWritten hashBytes (Bag.write hash) b := by
  have hkey : ∀ a b : α, (identical : Setoid α) a b ↔ id a = id b := fun _ _ => Iff.rfl
  constructor
  · intro x y hx hy h hash
    exact (hx.faithful hkey).digest_eq (hy.faithful hkey) h hash
  · intro a b ha hb h hash
    have hfa : Faithful id a := ha.faithful hkey rfl (fun _ => rfl) rfl rfl
    have hfb : Faithful id b := hb.faithful hkey rfl (fun _ => rfl) rfl rfl
    have hwrite := write_eq_of_digest_eq (hfa.digest_eq hfb h hash)
    exact ⟨hwrite, fun hashBytes => congrArg hashBytes (hwrite ByteArray.empty)⟩

/-- Bags in opposite orders, and a map in which a zero stands. -/
theorem digest_eq_of_equals_mixed :
    ∃ (a b : Bag Nat) (m : CountMap Nat),
      a.entries = [(12, 2), (25, 1)] ∧ b.entries = [(25, 1), (12, 2)] ∧
      m.pairs = [(25, 1), (7, 0), (12, 2)] ∧
      a.SoundUpTo identical ∧ b.SoundUpTo identical ∧
      BagLike.equals a b = true ∧ BagLike.equals m b = true ∧
      (∀ hash : Nat → UInt64, BagLike.digest hash m = BagLike.digest hash b) ∧
      ∀ (hash : Nat → UInt64) (hashBytes : ByteArray → UInt64),
        hashWritten hashBytes (Bag.write hash) a = hashWritten hashBytes (Bag.write hash) b := by
  let a : Bag Nat := ⟨⟨#[12, 25], #[2, 1], .natural 0, 3⟩⟩
  let b : Bag Nat := ⟨⟨#[25, 12], #[1, 2], (Comparator.natural 0).reversed 1, 3⟩⟩
  let m : CountMap Nat := ⟨[(25, 1), (7, 0), (12, 2)], by decide⟩
  have hwf : a.WellFormed := by decide
  have hwf' : b.WellFormed := by decide
  have hm : Holding.Sound identical (.counts m) := .counts fun _ _ => Iff.rfl
  have hab : BagLike.equals a b = true := by decide +kernel
  have hmb : BagLike.equals m b = true := by decide +kernel
  have hone := digest_eq_of_equals.2 a b hwf.soundUpTo_identical hwf'.soundUpTo_identical hab
  exact ⟨a, b, m, rfl, rfl, rfl, hwf.soundUpTo_identical, hwf'.soundUpTo_identical, hab, hmb,
    digest_eq_of_equals.1 _ _ hm (.bag hwf'.soundUpTo_identical) hmb,
    fun hash hashBytes => (hone hash).2 hashBytes⟩

end SortedMultiset
