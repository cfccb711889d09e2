import Reconcile.Table.Keyed
import Reconcile.Table.Positional

/-!
# Comparison of tables

One run over two sources. Sources that come from factories are opened first and closed at the end,
however the run ends. A run gives a tree only when both sources were read to their end; it keeps
the records that were logged on the way, whatever ends it.
-/

namespace Reconcile.Table

open Reconcile.Diff Reconcile.Document Reconcile.Expectation Reconcile.Journal

/-- What ends a run without a result. -/
inductive Fault where
  | missingKeyColumn (column side : String)
  | source (f : SourceFault)
  | breakdown (b : Breakdown)
  deriving DecidableEq, Repr

def Fault.message : Fault → String
  | .missingKeyColumn column side => s!"Key column '{column}' is absent in {side} data"
  | .source f => f.message
  | .breakdown b => b.message

/-- The kind of a fault as logs name it. -/
def Fault.kindName : Fault → String
  | .missingKeyColumn _ _ => "ParametersError"
  | .source _ => "SourceError"
  | .breakdown b => b.kindName

/-- What a run over two open sources gives. -/
structure Course where
  result : Except Fault Tree
  records : List Record

/-! ## 1. Over open sources -/

/-- Checks that both sides have the key columns. -/
def checkKeyColumns (s : Settings) (expected actual : Header) : Except Fault Unit :=
  s.keyColumns.forM fun c => do
    if !expected.has c then throw (.missingKeyColumn c "expected")
    if !actual.has (s.actualColumn c) then throw (.missingKeyColumn (s.actualColumn c) "actual")

/-- The records of a report: progress, and its end unless there was nothing to compare. -/
def reportRecords (isEmpty : Bool) (routed : List RoutedRow) : List Record :=
  progressFrom 0 0 routed ++ if isEmpty then [] else [finishedRecord routed]

def comparePositional (s : Settings) (expected actual : Source) : Course :=
  if actual.closed && !expected.closed then ⟨.error (.source .closed), []⟩
  else
    let (steps, fault) := stepsOf expected.stream actual.stream
    let (routed, broken) := routeSteps s 1 steps
    match broken, fault with
    | some b, _ => ⟨.error (.breakdown b), progressFrom 0 0 routed⟩
    | none, some f => ⟨.error (.source f), progressFrom 0 0 routed⟩
    | none, none =>
      let e := expected.stream.rows.length
      let a := actual.stream.rows.length
      ⟨.ok (positionalReport s e a routed), reportRecords (e == 0 && a == 0) routed⟩

/-- The record of the index of the actual rows. -/
def indexedRecord (s : Settings) (rows : Nat) : Record :=
  { level := Level.debug.name, message := "Actual rows indexed", operation := some operation
    context := [("rows", count rows), ("key_columns", .verbatim (.texts s.keyColumns))] }

/-- The rows of a report for an expected side that was read up to a fault, and its result. -/
def compareIndexed (s : Settings) (expected : Stream) (index : KeyIndex Candidate) : Course :=
  let (rows, ended) := routeRows s 1 expected.rows (.empty s.keyColumns s.numericColumns) index
  match ended, expected.fault with
  | .error b, _ => ⟨.error (.breakdown b), progressFrom 0 0 rows⟩
  | .ok _, some f => ⟨.error (.source f), progressFrom 0 0 rows⟩
  | .ok index, none =>
    let left := index.leftovers
    let routed := rows ++ routeLeftovers s left
    let e := expected.rows.length
    ⟨.ok (keyedReport s e left.length routed),
      reportRecords (e == 0 && left.isEmpty) routed⟩

def compareKeyed (s : Settings) (expected actual : Source) : Course :=
  match actual.stream.fault with
  | some f => ⟨.error (.source f), []⟩
  | none =>
    let rows := actual.stream.rows
    let course := compareIndexed s expected.stream (indexRows s rows)
    { course with records := indexedRecord s rows.length :: course.records }

/-- Compares two open sources. -/
def compareSources (s : Settings) (expected actual : Source) : Course :=
  if s.isKeyed then
    let checked : Except Fault Unit := do
      let e ← expected.readHeader.mapError .source
      let a ← actual.readHeader.mapError .source
      checkKeyColumns s e a
    match checked with
    | .error f => ⟨.error f, []⟩
    | .ok () => compareKeyed s expected actual
  else comparePositional s expected actual

/-! ## 2. A run -/

/-- A finished run: its result, the sources as it leaves them, and its records. -/
structure Run where
  result : Except Fault Tree
  expected : Source
  actual : Source
  records : List Record

/-- What the records of the start and the end of a run say about where they come from. -/
def runContext : List (String × Detail) := [("function", .text "TabularDiffEngine.compare")]

/-- The record of the end of a run. -/
def endRecord : Except Fault Tree → Record
  | .ok t => completed operation
      (runContext ++ [("success", .verbatim (.bool t.success)),
        ("has_errors", .verbatim (.bool t.hasErrors))])
  | .error f => failed operation f.kindName f.message runContext

/-- The course of a run between its first and its last record, and what becomes of the sources. -/
def runSources (s : Settings) (expected actual : Supply) : Course × Source × Source :=
  match expected.acquire "expected" with
  | .error f => (⟨.error (.source f), []⟩, expected.source, actual.source)
  | .ok e => match actual.acquire "actual" with
    | .error f => (⟨.error (.source f), []⟩, expected.released, actual.source)
    | .ok a => (compareSources s e a, expected.released, actual.released)

/-- Compares two tables. -/
def compare (s : Settings) (expected actual : Supply) : Run :=
  let (course, e, a) := runSources s expected actual
  { result := course.result, expected := e, actual := a
    records := started operation runContext :: course.records ++ [endRecord course.result] }

end Reconcile.Table
