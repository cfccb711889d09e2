import Reconcile.Diff.Tree
import Reconcile.Journal.Record
import Reconcile.Settings.Basic

/-!
# Reports

The rows of a comparison are routed to four sections. A section may hold fewer rows than are routed
to it; what it does not hold still counts, and a section fails when a row that it does not hold
failed. Progress is noted at round numbers of rows.
-/

namespace Reconcile.Table

open Reconcile.Diff Reconcile.Document Reconcile.Journal

/-! ## 1. Sections -/

/-- The sections of a report. -/
inductive Section where
  | passed
  | failed
  | notFound
  | extra
  deriving DecidableEq, Repr

namespace Section

/-- The sections in the order of a report. -/
def all : List Section := [.passed, .failed, .notFound, .extra]

def name : Section → String
  | .passed => "Passed rows"
  | .failed => "Failed rows"
  | .notFound => "Not found rows"
  | .extra => "Extra rows"

/-- How many rows a section may hold. -/
def cap (caps : Caps) : Section → Int
  | .passed => caps.passed
  | .failed => caps.failed
  | .notFound => caps.notFound
  | .extra => caps.extra

/-- The section of a compared pair of rows. -/
def ofPair (row : Tree) : Section := if row.success then .passed else .failed

end Section

/-- A row of a report with its section. -/
structure RoutedRow where
  place : Section
  row : Tree

/-- The first rows, as many as a section may hold. -/
def withinCap (cap : Int) (rows : List Tree) : List Tree :=
  if cap = unlimited then rows else rows.take cap.toNat

/-- The node of a section with the given rows. -/
def sectionTree (name : String) (cap : Int) (rows : List Tree) : Tree :=
  let kept := withinCap cap rows
  let dropped := rows.drop kept.length
  { name := some name, children := kept, failed := dropped.any fun r => !r.success
    comment := if dropped.isEmpty then none
      else some s!"{rows.length} rows, {dropped.length} not stored in report" }

/-- The rows routed to a section. -/
def rowsOf (place : Section) (routed : List RoutedRow) : List Tree :=
  (routed.filter (·.place == place)).map RoutedRow.row

/-- The number of rows that succeeded. -/
def passedCount (routed : List RoutedRow) : Nat := routed.countP (·.row.success)

/-- The report of the given rows. -/
def report (caps : Caps) (routed : List RoutedRow) : Tree :=
  let processed := routed.length
  let passed := passedCount routed
  { comment := some
      s!"Processed {processed} rows: {passed} passed / {processed - passed} failed"
    children := Section.all.map fun p => sectionTree p.name (p.cap caps) (rowsOf p routed) }

/-- The report when neither side has rows. -/
def emptyReport : Tree := { comment := some "Both datasets are empty. Nothing to compare." }

/-! ## 2. Progress -/

/-- The least step that a number is not more than ten times as large as. -/
def progressStep (count step : Nat) : Nat :=
  if 0 < step ∧ step * 10 < count then progressStep count (step * 10) else step
  termination_by count - step

/-- Whether progress is noted at a number of rows: every 1000 rows up to 10000, every 10000 up to
    100000, and so on. -/
def shouldLogProgress (count : Int) : Bool :=
  0 < count && count.toNat % progressStep count.toNat 1000 == 0

/-- The operation that the records of a comparison belong to. -/
def operation : String := "compare_tables"

def count (n : Nat) : Detail := .verbatim (.int n)

def progressRecord (rows passed : Nat) : Record :=
  { level := Level.info.name, message := s!"Compared {rows} rows, {passed} passed"
    operation := some operation, context := [("rows", count rows), ("passed", count passed)] }

/-- The records of progress while rows are routed, after the given numbers of rows. -/
def progressFrom (rows passed : Nat) : List RoutedRow → List Record
  | [] => []
  | r :: rest =>
    let rows := rows + 1
    let passed := if r.row.success then passed + 1 else passed
    if shouldLogProgress rows then progressRecord rows passed :: progressFrom rows passed rest
    else progressFrom rows passed rest

/-- The record of the end of a comparison. -/
def finishedRecord (routed : List RoutedRow) : Record :=
  let rows := routed.length
  let passed := passedCount routed
  { level := Level.info.name, message := "Comparison finished", operation := some operation
    context := [("rows", count rows), ("passed", count passed), ("failed", count (rows - passed))] }

end Reconcile.Table
