import Reconcile.Expectation.Match
import Reconcile.Journal.Shorten

/-!
# Traces

What is noted about the evaluation of an expression: its kind, both values and the answer.
Literals and evaluations that end in a fault leave no trace.
-/

namespace Reconcile.Expectation

/-- The line noted about an answer. -/
def traceLine (kind : String) (expected actual : Option String) (answer : Bool) : String :=
  "match: kind=" ++ kind ++ ", expected=" ++ Journal.shorten Journal.shownLength expected ++
    ", actual=" ++ Journal.shorten Journal.shownLength actual ++
    ", result=" ++ (if answer then "True" else "False")

/-- The lines noted while a value is matched. -/
def trace (expected actual : Option String) (caseSensitive : Bool := true) : List String :=
  let e := Expression.ofCell expected
  if e.isLiteral then []
  else match e.accepts actual caseSensitive with
    | .ok answer => [traceLine e.kindName expected actual answer]
    | .error _ => []

end Reconcile.Expectation
