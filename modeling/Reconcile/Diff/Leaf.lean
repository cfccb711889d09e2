import Reconcile.Document.Value

/-!
# Leaves of a diff

The outcome of checking one field. A leaf passes when its value matched, or when it was only
reported for information.
-/

namespace Reconcile.Diff

open Reconcile.Document

/-- The outcome of checking one field. -/
inductive Outcome where
  | matched
  | mismatch
  | info
  | error
  deriving DecidableEq, Repr

namespace Outcome

def all : List Outcome := [.matched, .mismatch, .info, .error]

def name : Outcome → String
  | .matched => "match"
  | .mismatch => "mismatch"
  | .info => "info"
  | .error => "error"

def ofName? (s : String) : Option Outcome := all.find? (·.name == s)

def passes (o : Outcome) : Bool := o == .matched || o == .info

def ofBool (b : Bool) : Outcome := if b then .matched else .mismatch

end Outcome

/-- A checked field: what was expected, what was found, and the outcome. -/
structure Leaf where
  name : String
  expected : Option String
  actual : Option String
  outcome : Outcome
  error : Option String := none
  deriving DecidableEq, Repr

namespace Leaf

def passes (l : Leaf) : Bool := l.outcome.passes

def isError (l : Leaf) : Bool := l.outcome == .error

/-- The leaf as a record. -/
def toValue (l : Leaf) : Value :=
  .record [("name", .text l.name), ("expected", .ofOption l.expected),
    ("actual", .ofOption l.actual), ("outcome", .text l.outcome.name),
    ("error", .ofOption l.error)]

end Leaf

end Reconcile.Diff
