import Reconcile.Decimal.Rounding
import Reconcile.Expectation.Check
import Reconcile.Settings.Basic
import Reconcile.Table.Row

/-!
# Differences of rows

The node of a report for a pair of rows, and for a row without a counterpart. Ignored columns have
no leaf; columns that are only reported, and those that only the actual side has, are not scored.
-/

namespace Reconcile.Table

open Reconcile.Diff Reconcile.Expectation

/-! ## 1. Cells -/

/-- The leaf of a pair of cells of a numeric column, when both hold numbers. -/
def numericLeaf? (precision : Decimal) (column : String) (expected actual : Option String) :
    Option Leaf :=
  match Decimal.readCell? (expected.map Text.trim), Decimal.readCell? (actual.map Text.trim) with
  | some e, some a =>
    some { name := column, expected, actual, outcome := .ofBool (Decimal.within e a precision) }
  | _, _ => none

/-- The leaf of a pair of cells. Numbers in a numeric column agree up to its precision. -/
def compareCell (s : Settings) (column : String) (expected actual : Option String) :
    Except Breakdown Leaf :=
  let numeric := (s.precision? column).bind fun p =>
    if isExpression expected then none else numericLeaf? p column expected actual
  match numeric with
  | some leaf => .ok leaf
  | none => check column expected actual none s.caseSensitive

/-! ## 2. Columns -/

/-- A column of a comparison: one of the expected side with its actual name, or one that only the
    actual side has. -/
inductive ComparedColumn where
  | paired (expected actual : String)
  | surplus (actual : String)
  deriving DecidableEq, Repr

/-- The columns that are compared, those of the expected side first. -/
def comparedColumns (s : Settings) (expected actual : Header) : List ComparedColumn :=
  let mapped := expected.columns.map s.actualColumn
  let ignored (c : String) : Bool := s.ignoreColumns.contains c
  (expected.columns.filter fun c => !ignored c && !ignored (s.actualColumn c)).map
      (fun c => .paired c (s.actualColumn c)) ++
    (actual.columns.filter fun c => !mapped.contains c && !ignored c).map .surplus

/-- The leaf of a compared column. -/
def compareColumn (s : Settings) (expected actual : Row) :
    ComparedColumn → Except Breakdown Leaf
  | .surplus c => .ok { name := c, expected := none, actual := actual.get c, outcome := .info }
  | .paired c a =>
    if s.infoColumns.contains c then
      .ok { name := c, expected := expected.get c, actual := actual.get a, outcome := .info }
    else compareCell s c (expected.get c) (actual.get a)

/-! ## 3. Rows -/

/-- The node of a pair of rows. -/
def comparePair (s : Settings) (name : String) (expected actual : Row) :
    Except Breakdown Tree := do
  let fields ← (comparedColumns s expected.header actual.header).mapM
    (compareColumn s expected actual)
  return { name := some name, fields }

/-- The node of an expected row without a counterpart. -/
def notFoundRow (s : Settings) (name : String) (row : Row) : Tree :=
  { name := some name, comment := some "Row not found in actual data", failed := true
    fields := (row.header.columns.filter fun c => !s.ignoreColumns.contains c).map fun c =>
      { name := c, expected := row.get c, actual := none, outcome := .info } }

/-- The node of an actual row without a counterpart. -/
def extraRow (s : Settings) (name : String) (row : Row) : Tree :=
  { name := some name, comment := some "Row is absent in expected data"
    failed := s.tableExtraPolicy == .fail
    fields := (row.header.columns.filter fun c => !s.ignoreColumns.contains c).map fun c =>
      { name := c, expected := none, actual := row.get c, outcome := .info } }

end Reconcile.Table
