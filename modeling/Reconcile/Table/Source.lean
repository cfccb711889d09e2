import Reconcile.Table.Row

/-!
# Row sources

Where the rows of a table come from. A source can be closed, and reading it can fail: when the
header is asked for, or after some rows. A source is handed to a comparison either open, and then
stays with the caller, or as a factory that opens it, and then the comparison closes it.
-/

namespace Reconcile.Table

/-- Why a source cannot be opened or read. -/
inductive SourceFault where
  | cannotOpen (side reason : String)
  | refused (reason : String)
  | cannotRead (reason : String)
  | closed
  deriving DecidableEq, Repr

def SourceFault.message : SourceFault → String
  | .cannotOpen side reason => "Couldn't open " ++ side ++ " source: " ++ reason
  | .refused reason => reason
  | .cannotRead reason => "Couldn't read rows: " ++ reason
  | .closed => "Can't read rows from a closed source"

/-- A source of rows with one header. -/
structure Source where
  header : Header
  rows : List Row
  closed : Bool := false
  /-- why the header cannot be read -/
  headerFault : Option String := none
  /-- the number of rows that can be read, and why there are no more -/
  rowFault : Option (Nat × String) := none
  deriving Repr

/-- What reading a source gives: rows, and the fault that ends them. -/
structure Stream where
  rows : List Row
  fault : Option SourceFault := none
  deriving Repr

namespace Source

def readHeader (s : Source) : Except SourceFault Header :=
  match s.headerFault with
  | some reason => .error (.cannotRead reason)
  | none => .ok s.header

def stream (s : Source) : Stream :=
  if s.closed then ⟨[], some .closed⟩
  else match s.rowFault with
    | some (count, reason) => ⟨s.rows.take count, some (.cannotRead reason)⟩
    | none => ⟨s.rows, none⟩

/-- All rows of a source that can be read to its end. -/
def allRows (s : Source) : Except SourceFault (List Row) :=
  match s.stream.fault with
  | some f => .error f
  | none => .ok s.stream.rows

def close (s : Source) : Source := { s with closed := true }

end Source

/-- Why a factory does not open its source. -/
inductive OpenFault where
  | failed (reason : String)
  | refused (reason : String)
  deriving DecidableEq, Repr

def OpenFault.toSourceFault (side : String) : OpenFault → SourceFault
  | .failed reason => .cannotOpen side reason
  | .refused reason => .refused reason

/-- A source as it is handed to a comparison. -/
inductive Supply where
  | held (s : Source)
  | factory (s : Source) (fault : Option OpenFault)
  deriving Repr

namespace Supply

def source : Supply → Source
  | .held s | .factory s _ => s

/-- Opens a source for a comparison. -/
def acquire (side : String) : Supply → Except SourceFault Source
  | .held s => .ok s
  | .factory s none => .ok s
  | .factory _ (some f) => .error (f.toSourceFault side)

/-- The source as a comparison that acquired it leaves it behind. -/
def released : Supply → Source
  | .held s => s
  | .factory s none => s.close
  | .factory s (some _) => s

end Supply

end Reconcile.Table
