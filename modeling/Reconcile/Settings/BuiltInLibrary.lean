import Reconcile.Schema.Standard
import Reconcile.Settings.Library
import Reconcile.Text.LineEnds
import Reconcile.Yaml.Reader

/-!
# The built-in library

Settings files are read as YAML, and documents are checked against the schemas that other documents
write down. A file is decoded as a whole before anything of it is read.
-/

namespace Reconcile.Settings

open Reconcile.Document

/-- What comes out of the built-in library beside the faults that it tells. -/
inductive BuiltInBreakdown where
  /-- bytes that are no text -/
  | undecodable
  | scalar (f : Yaml.ScalarFault)
  /-- a schema that can have no keywords, or whose dialect is named by no text -/
  | bareSchema
  | check (b : Schema.Breakdown)

namespace Library

/-! ## 1. Reading -/

/-- The document that a file of these bytes holds. -/
def readYaml (bytes : List UInt8) : Except (ReadFault BuiltInBreakdown) Value :=
  match Text.charsOf? bytes with
  | none => .error (.other .undecodable)
  | some cs => (Yaml.read cs).mapError fun f => match f with
    | .malformed c => .malformed c.message
    | .scalar f => .other (.scalar f)

/-! ## 2. Checking -/

/-- The key under which a schema names its dialect. -/
def dialectKey : String := "$schema"

/-- Whether a value can name a dialect; what is no text must stand for nothing. -/
def mayNameDialect : Value → Bool
  | .text _ | .null | .bool false => true
  | .int n => n == 0
  | .float x => x == 0
  | _ => false

/-- Whether a document can be asked for its dialect. -/
def mayBeSchema : Value → Bool
  | .null | .int _ | .float _ => false
  | .text s => (s.splitOn dialectKey).length == 1
  | .list xs => !xs.any (· == .text dialectKey)
  | v => (v.get? dialectKey).all mayNameDialect

def brokenOff {α : Type} (b : Schema.Breakdown) : Except (CheckFault BuiltInBreakdown) α :=
  .error (.other (.check b))

/-- Accepts a document without failures, and tells the best failure otherwise. -/
def acceptFound (found : Schema.Findings) : Except (CheckFault BuiltInBreakdown) Unit :=
  match found.told with
  | .error b => brokenOff b
  | .ok (some f) => .error (.refused f.message)
  | .ok none => .ok ()

/-- Checks a document against a schema; what is no schema accepts nothing. -/
def checkUnder (schema document : Value) : Except (CheckFault BuiltInBreakdown) Unit :=
  if !mayBeSchema schema then .error (.other .bareSchema)
  else match Schema.schemaFailure? schema with
    | .error b => brokenOff b
    | .ok (some f) => .error (.badSchema f.message)
    | .ok none => acceptFound (Schema.findingsUnderDocument schema document)

/-- The library that comes with the program. -/
def builtIn : Library BuiltInBreakdown where
  read := readYaml
  check := checkUnder

end Library

end Reconcile.Settings
