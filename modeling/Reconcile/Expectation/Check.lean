import Reconcile.Diff.Tree
import Reconcile.Expectation.Match

/-!
# Checks

A check turns one field into a leaf: a malformed expectation becomes an error beside the field, so
that its neighbours are still compared. Lists of values are compared regardless of order: every
expected value takes the first actual value left that it matches.
-/

namespace Reconcile.Expectation

open Reconcile.Diff

/-! ## 1. Fields -/

/-- When an expected value is only reported instead of compared. -/
inductive InfoRule where
  | null
  | nullOrEmpty
  deriving DecidableEq, Repr

def InfoRule.applies (expected : Option String) : InfoRule → Bool
  | .null => expected.isNone
  | .nullOrEmpty => isAbsentOrEmpty expected

/-- The leaf of one field. -/
def check (name : String) (expected actual : Option String) (info : Option InfoRule := none)
    (caseSensitive : Bool := true) (rule : Calendar.IsoRule := .every) : Except Breakdown Leaf :=
  if info.any (·.applies expected) then .ok { name, expected, actual, outcome := .info }
  else match accepts expected actual caseSensitive rule with
    | .ok b => .ok { name, expected, actual, outcome := .ofBool b }
    | .error (.malformed c) =>
      .ok { name, expected, actual, outcome := .error, error := some c.message }
    | .error (.breakdown b) => .error b

/-- A check gives a leaf for its field. -/
theorem check_name {name : String} {wanted found : Option String} {info : Option InfoRule}
    {caseSensitive : Bool} {leaf : Leaf}
    (h : check name wanted found info caseSensitive = .ok leaf) : leaf.name = name := by
  unfold check at h
  split at h
  · obtain rfl := Except.ok.inj h
    rfl
  · split at h
    · obtain rfl := Except.ok.inj h
      rfl
    · obtain rfl := Except.ok.inj h
      rfl
    · cases h

/-! ## 2. Lists -/

/-- What an expected value found among the values that are left. -/
inductive Search where
  | found (place : Nat) (value : Option String)
  | missing
  | unreadable (cause : Cause)
  deriving DecidableEq, Repr

/-- Looks for the first value left that an expected one matches; a malformed expectation ends the
    search. Values are left with their places. -/
def searchList (expected : Option String) : List (Nat × Option String) → Except Breakdown Search
  | [] => .ok .missing
  | (place, actual) :: rest => match accepts expected actual with
    | .ok true => .ok (.found place actual)
    | .ok false => searchList expected rest
    | .error (.malformed c) => .ok (.unreadable c)
    | .error (.breakdown b) => .error b

/-- The leaves of the expected values, numbered from the given one on, and the values left over. -/
def consumeAll (label : String) : Nat → List (Option String) → List (Nat × Option String) →
    Except Breakdown (List Leaf × List (Nat × Option String))
  | _, [], left => .ok ([], left)
  | number, expected :: rest, left => do
    let name := label ++ "#" ++ toString number
    let (leaf, left) ← match ← searchList expected left with
      | .found place value =>
        pure (({ name, expected, actual := value, outcome := .matched } : Leaf),
          left.filter (·.1 != place))
      | .missing => pure ({ name, expected, actual := none, outcome := .mismatch }, left)
      | .unreadable c =>
        pure ({ name, expected, actual := none, outcome := .error, error := some c.message }, left)
    let (leaves, left) ← consumeAll label (number + 1) rest left
    return (leaf :: leaves, left)

/-- The leaf of an actual value that no expected one took. -/
def unexpectedLeaf (label : String) (place : Nat) (actual : Option String) : Leaf :=
  { name := label ++ "unexpected #" ++ toString (place + 1), expected := none, actual
    outcome := .mismatch }

/-- Compares two lists of values regardless of order. -/
def compareLists (expected actual : List (Option String)) (label : String := "") :
    Except Breakdown Tree := do
  let places := actual.zipIdx.map fun (value, place) => (place, value)
  let (leaves, left) ← consumeAll label 1 expected places
  let fields := leaves ++ left.map fun (place, value) => unexpectedLeaf label place value
  let name := if label.isEmpty then "Values" else label ++ "values"
  let comment := if fields.all Leaf.passes then none else some "Lists of values don't match"
  return { name := some name, comment, fields }

end Reconcile.Expectation
