import Reconcile.Table.KeyIndex
import Reconcile.Table.Report
import Reconcile.Table.RowDiff

/-!
# Keyed comparison

With key columns the actual rows are indexed by key, and every expected row takes the first one
left with an equal key. When duplicates are looked for, a row whose key its side had before is
marked and fails, and an actual one is reported even where surplus rows are ignored.
-/

namespace Reconcile.Table

open Reconcile.Diff Reconcile.Expectation

/-! ## 1. Duplicates -/

/-- Marks a row as a duplicate of an earlier one. -/
def markDuplicate (row : Tree) (first : String) : Tree :=
  { row with name := some (row.name.getD "None" ++ " (duplicate of row named '" ++ first ++ "')")
             failed := true }

/-- Marks a row when it is a duplicate. -/
def markIf (row : Tree) : Option String → Tree
  | some first => markDuplicate row first
  | none => row

/-- Registers a key when duplicates are looked for. -/
def registerIf (wanted : Bool) (t : DuplicateTracker) (key : RowKey) (name : String) :
    Option String × DuplicateTracker :=
  if wanted then t.register key name else (none, t)

/-! ## 2. The actual side -/

/-- An actual row with its number and the name of the row it repeats. -/
structure Candidate where
  number : Nat
  row : Row
  duplicateOf : Option String
  deriving DecidableEq, Repr

/-- Adds actual rows to an index, from a number on. -/
def indexFrom (s : Settings) : Nat → List Row → DuplicateTracker → KeyIndex Candidate →
    KeyIndex Candidate
  | _, [], _, index => index
  | n, row :: rest, tracker, index =>
    let key := RowKey.ofRow row s.keyColumns s.columnMapping
    let (first, tracker) := registerIf s.checkDuplicates tracker key s!"Actual row #{n}"
    indexFrom s (n + 1) rest tracker (index.add ⟨n, row, first⟩ key)

/-- The index of the actual rows. -/
def indexRows (s : Settings) (rows : List Row) : KeyIndex Candidate :=
  indexFrom s 1 rows (.empty s.keyColumns s.numericColumns)
    (.empty s.keyColumns s.numericColumns)

/-! ## 3. The expected side -/

/-- Adds the key of a row to its comment. -/
def commentKey (row : Tree) (key : RowKey) : Tree :=
  let text := "Key: " ++ key.text
  { row with comment := some (match row.comment with
      | some c => if c.isEmpty then text else c ++ ". " ++ text
      | none => text) }

/-- The row of a report for an expected row, before it is known to repeat one, and the index
    without the candidate it took. -/
def routeExpected (s : Settings) (name : String) (row : Row) (key : RowKey)
    (index : KeyIndex Candidate) : Except Breakdown (RoutedRow × KeyIndex Candidate) :=
  match index.take? key with
  | none => .ok (⟨.notFound, notFoundRow s name row⟩, index)
  | some (c, index) => do
    let tree ← comparePair s name row c.row
    let place : Section := if c.duplicateOf.isSome then .failed else .ofPair tree
    return (⟨place, markIf tree c.duplicateOf⟩, index)

/-- The row of a report with its key, marked when it repeats an expected row. -/
def finishExpected (r : RoutedRow) (key : RowKey) (first : Option String) : RoutedRow :=
  let place := if first.isSome && r.place == .passed then .failed else r.place
  ⟨place, markIf (commentKey r.row key) first⟩

/-- The rows of a report for the expected rows from a number on, with the index that they leave, or
    what broke them off. -/
def routeRows (s : Settings) : Nat → List Row → DuplicateTracker → KeyIndex Candidate →
    List RoutedRow × Except Breakdown (KeyIndex Candidate)
  | _, [], _, index => ([], .ok index)
  | n, row :: rest, tracker, index =>
    let name := s!"Row #{n}"
    let key := RowKey.ofRow row s.keyColumns
    match routeExpected s name row key index with
    | .error b => ([], .error b)
    | .ok (routed, index) =>
      let (first, tracker) := registerIf s.checkDuplicates tracker key name
      let (rows, ended) := routeRows s (n + 1) rest tracker index
      (finishExpected routed key first :: rows, ended)

/-- The rows of a report for the candidates that nobody took. -/
def routeLeftovers (s : Settings) (left : List Candidate) : List RoutedRow :=
  left.filterMap fun c =>
    if s.tableExtraPolicy == .ignore && c.duplicateOf.isNone then none
    else some ⟨.extra, markIf (extraRow s s!"Extra row #{c.number}" c.row) c.duplicateOf⟩

/-- The report of rows that were read to their end. -/
def keyedReport (s : Settings) (expected left : Nat) (routed : List RoutedRow) : Tree :=
  if expected = 0 ∧ left = 0 then emptyReport else report s.caps routed

end Reconcile.Table
