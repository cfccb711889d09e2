import Reconcile.Document.Value
import Reconcile.Journal.Shorten
import Reconcile.Json.Writer

/-!
# Log records

A record has a level and a message and may tell the operation, a context, a duration and an error;
what is empty is left out. Its line is one JSON object, which begins with the time.
-/

namespace Reconcile.Journal

open Reconcile.Document

/-! ## 1. Records -/

/-- The levels of a log, in ascending order. -/
inductive Level where
  | debug
  | info
  | warning
  | error
  deriving DecidableEq, Repr

namespace Level

def name : Level → String
  | .debug => "DEBUG"
  | .info => "INFO"
  | .warning => "WARNING"
  | .error => "ERROR"

def rank : Level → Nat
  | .debug => 10
  | .info => 20
  | .warning => 30
  | .error => 40

end Level

/-- A detail of a context: a text, which is shortened, or a value that is kept as it is. -/
inductive Detail where
  | text (s : String)
  | verbatim (v : Value)
  deriving Inhabited

def Detail.toValue : Detail → Value
  | .text s => .text (shortenText s)
  | .verbatim v => v

/-- How long something took: a number of milliseconds, or what a clock will say. -/
inductive Duration where
  | measured
  | milliseconds (v : Value)
  deriving Inhabited

/-- A binary number is rounded to two places, an integer is kept. -/
def Duration.toValue : Duration → Value
  | .measured => .text "<duration>"
  | .milliseconds (.float x) => .float (Decimal.roundBinary 2 x)
  | .milliseconds v => v

/-- One record of a log. The level is given by its name. -/
structure Record where
  level : String
  message : String
  operation : Option String := none
  context : List (String × Detail) := []
  duration : Option Duration := none
  error : Option String := none
  deriving Inhabited

namespace Record

/-- The fields of a record after the time. -/
def fields (r : Record) : List (String × Value) :=
  let entry (key : String) (text : Option String) : List (String × Value) :=
    match text with
    | some s => if s.isEmpty then [] else [(key, .text s)]
    | none => []
  [("level", .text r.level), ("message", .text r.message)] ++ entry "operation" r.operation ++
    (if r.context.isEmpty then []
      else [("context", .ofPairs (r.context.map fun (k, d) => (.text k, d.toValue)))]) ++
    (r.duration.map fun d => ("duration_ms", d.toValue)).toList ++ entry "error" r.error

/-- The record without the time. -/
def toValue (r : Record) : Value := .record r.fields

/-- The line of a record, with a given text for the time. -/
def line (timestamp : String) (r : Record) : String :=
  Json.write (.record (("timestamp", .text timestamp) :: r.fields))

end Record

/-! ## 2. Operations -/

/-- The record of the start of an operation. -/
def started (operation : String) (context : List (String × Detail) := []) : Record :=
  { level := Level.debug.name, message := "Starting " ++ operation, operation := some operation
    context }

/-- The record of the end of an operation. -/
def completed (operation : String) (context : List (String × Detail) := []) : Record :=
  { level := Level.info.name, message := "Completed " ++ operation, operation := some operation
    context, duration := some .measured }

/-- The record of an operation that an error ended. -/
def failed (operation kind error : String) (context : List (String × Detail) := []) : Record :=
  { level := Level.error.name, message := "Failed " ++ operation, operation := some operation
    context := context ++ [("error_type", .text kind)], duration := some .measured
    error := some error }

end Reconcile.Journal
