import Reconcile.Table.Report
import Reconcile.Table.RowDiff
import Reconcile.Table.Source

/-!
# Positional comparison

Without key columns the rows of both sides are paired in their order. A step reads a row of the
expected side and then one of the actual side, as long as either has one. Rows beyond the end of
the other side have no counterpart, and different numbers of rows fail the comparison.
-/

namespace Reconcile.Table

open Reconcile.Diff Reconcile.Expectation

/-- The rows that were read in one step. -/
inductive Step where
  | both (expected actual : Row)
  | expectedOnly (row : Row)
  | actualOnly (row : Row)
  deriving Repr

/-- The steps of reading rows that are there. -/
def zipRows : List Row → List Row → List Step
  | [], as => as.map .actualOnly
  | es, [] => es.map .expectedOnly
  | e :: es, a :: as => .both e a :: zipRows es as

/-- How many steps can be taken, and the fault that ends them: each step reads the expected side
    first, and a side that came to its end is not read again. -/
def stepsOf (expected actual : Stream) : List Step × Option SourceFault :=
  let e := expected.rows
  let a := actual.rows
  match expected.fault, actual.fault with
  | none, none => (zipRows e a, none)
  | some f, none => (zipRows e (a.take e.length), some f)
  | none, some g => (zipRows (e.take a.length) a, some g)
  | some f, some g =>
    if e.length ≤ a.length then (zipRows e (a.take e.length), some f)
    else (zipRows (e.take a.length) a, some g)

/-- The rows of a report for the steps from a number on, and what broke them off. -/
def routeSteps (s : Settings) : Nat → List Step → List RoutedRow × Option Breakdown
  | _, [] => ([], none)
  | n, step :: rest =>
    let more (r : List RoutedRow) : List RoutedRow × Option Breakdown :=
      let (rows, b) := routeSteps s (n + 1) rest
      (r ++ rows, b)
    match step with
    | .both e a => match comparePair s s!"Row #{n}" e a with
      | .ok row => more [⟨.ofPair row, row⟩]
      | .error b => ([], some b)
    | .expectedOnly e => more [⟨.notFound, notFoundRow s s!"Row #{n}" e⟩]
    | .actualOnly a =>
      if s.tableExtraPolicy == .ignore then more []
      else more [⟨.extra, extraRow s s!"Extra row #{n}" a⟩]

/-- The report of rows that were read to their end. -/
def positionalReport (s : Settings) (expected actual : Nat) (routed : List RoutedRow) : Tree :=
  if expected = 0 ∧ actual = 0 then emptyReport
  else
    let result := report s.caps routed
    if expected = actual then result
    else result.addChild
      (.failure s!"Expected {expected} rows, actual {actual} rows" (some "Row count"))

end Reconcile.Table
