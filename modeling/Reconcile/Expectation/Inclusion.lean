/-!
# Inclusion

Which bounds of a range belong to it. Ranges are open unless they say otherwise.
-/

namespace Reconcile.Expectation

/-- Which bounds of a range belong to it. -/
inductive Inclusion where
  | none
  | includeLeft
  | includeRight
  | includeBoth
  deriving DecidableEq, Repr

namespace Inclusion

def all : List Inclusion := [.none, .includeLeft, .includeRight, .includeBoth]

def name : Inclusion → String
  | .none => "none"
  | .includeLeft => "includeLeft"
  | .includeRight => "includeRight"
  | .includeBoth => "includeBoth"

def ofName? (s : String) : Option Inclusion := all.find? (·.name == s)

def includesLeft (i : Inclusion) : Bool := i == .includeLeft || i == .includeBoth

def includesRight (i : Inclusion) : Bool := i == .includeRight || i == .includeBoth

/-- Whether a value is in a range, given how it compares with the left and the right bound. -/
def contains (i : Inclusion) (toLeft toRight : Ordering) : Bool :=
  (toLeft == .gt || (i.includesLeft && toLeft == .eq)) &&
    (toRight == .lt || (i.includesRight && toRight == .eq))

end Inclusion

end Reconcile.Expectation
