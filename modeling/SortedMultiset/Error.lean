/-!
# What can go wrong

Every operation that can fail names its cause by a value of `Error`; the wording is in one place,
`Error.message`.  The checks that raise the two argument errors stand beside it: `requireArgument`
for a condition on an argument, `requireIndex` for an index into something of a known size.

* `requireIndex_eq_ok_iff`: an index passes exactly when it is below the size;
* `requireArgument_eq_ok_iff`: an argument passes exactly when its condition holds.
-/

namespace SortedMultiset

/-- The cause of a failed operation. -/
inductive Error where
  /-- A bag could not be made from what was given. -/
  | construction (reason : String)
  /-- The settings do not determine a bag. -/
  | configuration (reason : String)
  /-- The argument `name` breaks `condition`. -/
  | invalidArgument (name condition : String)
  /-- `index` does not name one of `size` things. -/
  | indexOutOfRange (index size : Nat)
  /-- `operation` needs at least one element. -/
  | emptyState (operation : String)
  /-- `operation` is never available. -/
  | unsupported (operation : String)
  deriving DecidableEq, Repr, Inhabited

namespace Error

/-- The text of an error, for a reader. -/
def message : Error → String
  | construction reason => "cannot construct: " ++ reason
  | configuration reason => "invalid configuration: " ++ reason
  | invalidArgument name condition => "invalid argument " ++ name ++ ": " ++ condition
  | indexOutOfRange index size =>
    "index " ++ toString index ++ " is out of range for size " ++ toString size
  | emptyState operation => operation ++ " called on an empty bag"
  | unsupported operation => "unsupported operation " ++ operation

def isIndexOutOfRange : Error → Bool
  | indexOutOfRange _ _ => true
  | _ => false

def isInvalidArgument : Error → Bool
  | invalidArgument _ _ => true
  | _ => false

end Error

/-! ### Checks -/

/-- The argument `name` must satisfy the condition that `condition` writes out. -/
def requireArgument (holds : Bool) (name condition : String) : Except Error Unit :=
  if holds then .ok () else .error (.invalidArgument name condition)

/-- `index` must name one of `size` things. -/
def requireIndex (index size : Nat) : Except Error Unit :=
  if index < size then .ok () else .error (.indexOutOfRange index size)

/-- The first bound of a range must not lie behind its last. -/
def requireOrdered (first last : Nat) : Except Error Unit :=
  requireArgument (decide (first ≤ last)) "from" "from <= to"

/-- The distance from the first to the last bound of a range. -/
def distance (first last : Nat) : Except Error Nat := do
  requireOrdered first last
  return last - first

/-- How many things there are from `index` on, `index` itself included. -/
def countFrom (index size : Nat) : Except Error Nat := do
  requireIndex index size
  return size - index

theorem requireArgument_eq_ok_iff {holds : Bool} {name condition : String} :
    requireArgument holds name condition = .ok () ↔ holds = true := by
  cases holds <;> simp [requireArgument]

theorem requireIndex_eq_ok_iff {index size : Nat} :
    requireIndex index size = .ok () ↔ index < size := by
  by_cases h : index < size <;> simp [requireIndex, h]

theorem requireIndex_of_lt {index size : Nat} (h : index < size) :
    requireIndex index size = .ok () := by
  simp [requireIndex, h]

theorem requireIndex_of_le {index size : Nat} (h : size ≤ index) :
    requireIndex index size = .error (.indexOutOfRange index size) := by
  simp [requireIndex, Nat.not_lt.mpr h]

theorem requireOrdered_of_le {first last : Nat} (h : first ≤ last) :
    requireOrdered first last = .ok () := by
  simp [requireOrdered, requireArgument, h]

theorem requireOrdered_of_lt {first last : Nat} (h : last < first) :
    requireOrdered first last = .error (.invalidArgument "from" "from <= to") := by
  simp [requireOrdered, requireArgument, Nat.not_le.mpr h]

end SortedMultiset
