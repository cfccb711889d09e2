import Reconcile.Journal.Record
import Reconcile.Json.Reader
import Reconcile.Settings.Library
import Reconcile.Settings.OfDocument
import Reconcile.Settings.Schema
import Reconcile.Text.LineEnds

/-!
# Loading settings

A settings file is read, checked against a schema, and made into settings; an empty document leaves
all defaults. The schema is the one for settings files unless another file is given. What goes
wrong on the way is told in one record of the log, and so is success. Documents are read and checked
by libraries.
-/

namespace Reconcile.Settings

open Reconcile.Document Reconcile.Journal

/-! ## 1. Files -/

/-- A file as it is found. -/
inductive File where
  | absent
  | holding (bytes : List UInt8)
  deriving DecidableEq, Repr

/-- The file that a text is written to. -/
def File.ofText (s : String) : File := .holding s.toUTF8.data.toList

/-- What a document is checked against. -/
inductive SchemaSource where
  | standard
  | file (f : File)

/-- The names of the two files. -/
structure Paths where
  settings : String
  schema : String

/-! ## 2. Faults -/

/-- What breaks loading off without being a fault of the configuration. -/
inductive Breakdown (ε : Type) where
  /-- bytes of the schema file that are no text -/
  | undecodable
  | schemaNumber (f : Json.Fault)
  /-- what else comes out of the library that reads the settings -/
  | reading (e : ε)
  /-- what else comes out of the library that checks them -/
  | checking (e : ε)
  | unusable (f : DocumentFault)
  /-- settings that cannot be told in a record -/
  | unwritable

/-- Why no settings are loaded. -/
inductive LoadFault (ε : Type) where
  | schemaAbsent
  | schemaMalformed (message : String)
  | settingsAbsent
  | settingsMalformed (message : String)
  | refused (message : String)
  | badSchema (message : String)
  | badValue (f : Fault)
  | breakdown (b : Breakdown ε)

variable {ε : Type}

namespace LoadFault

/-- The fault in words; a breakdown has none. -/
def message? (paths : Paths) : LoadFault ε → Option String
  | .schemaAbsent => some s!"Settings schema file not found: {paths.schema}"
  | .schemaMalformed m => some s!"Invalid JSON in {paths.schema}: {m}"
  | .settingsAbsent => some s!"Settings file not found: {paths.settings}"
  | .settingsMalformed m => some s!"Invalid YAML in {paths.settings}: {m}"
  | .refused m => some s!"Settings validation failed: {m}"
  | .badSchema m => some s!"Settings schema is invalid: {m}"
  | .badValue f => some f.message
  | .breakdown _ => none

/-- The message and the error of the record that tells the fault. -/
def told? (paths : Paths) : LoadFault ε → Option (String × String)
  | .schemaAbsent => some ("Settings schema file not found", paths.schema)
  | .schemaMalformed m => some ("Invalid JSON in settings schema", m)
  | .settingsAbsent => some ("Settings file not found", paths.settings)
  | .settingsMalformed m => some ("Invalid YAML in settings file", m)
  | .refused m => some ("Settings failed schema validation", m)
  | .badSchema m => some ("Settings schema is invalid", m)
  | .badValue f => some ("Settings contain invalid values", f.message)
  | .breakdown _ => none

end LoadFault

def broken {α : Type} (b : Breakdown ε) : Except (LoadFault ε) α := .error (.breakdown b)

/-! ## 3. Steps -/

/-- The document that a schema file holds. -/
def readSchema : File → Except (LoadFault ε) Value
  | .absent => .error .schemaAbsent
  | .holding bytes =>
    match Text.charsOf? bytes with
    | none => broken .undecodable
    | some cs => (Json.read cs).mapError fun f => match f with
      | .malformed _ _ => .schemaMalformed (f.message cs)
      | .integerTooLong _ => .breakdown (.schemaNumber f)

/-- The document that is checked against. -/
def readSource : SchemaSource → Except (LoadFault ε) Value
  | .standard => .ok schemaDocument
  | .file f => readSchema f

section Library

variable (library : Library ε)

/-- The document that a settings file holds. -/
def readSettings : File → Except (LoadFault ε) Value
  | .absent => .error .settingsAbsent
  | .holding bytes => (library.read bytes).mapError fun f => match f with
    | .malformed m => .settingsMalformed m
    | .other e => .breakdown (.reading e)

/-- Lets a document through that the schema accepts. -/
def accept (schema document : Value) : Except (LoadFault ε) Unit :=
  (library.check schema document).mapError fun f => match f with
    | .refused m => .refused m
    | .badSchema m => .badSchema m
    | .other e => .breakdown (.checking e)

/-- What a document states that a schema accepts. -/
def ofAccepted (document : Value) : Except (LoadFault ε) Stated :=
  (statedIn document).mapError fun f => match f with
    | .setting f => .badValue f
    | f => .breakdown (.unusable f)

/-- What a document states, once it is checked. -/
def readDocument (schema document : Value) : Except (LoadFault ε) Stated := do
  accept library schema document
  let stated ← ofAccepted document
  if Json.isWritable (.list stated.keyColumns) then .ok stated else broken .unwritable

/-- What a file states, or nothing when its document is empty. -/
def read (source : SchemaSource) (file : File) : Except (LoadFault ε) (Option Stated) := do
  let schema ← readSource source
  let document ← readSettings library file
  if document.isNothing then .ok none else some <$> readDocument library schema document

end Library

/-! ## 4. Loading -/

/-- What loading comes to: settings or a fault, and the records of the log. -/
structure Loaded (ε : Type) where
  outcome : Except (LoadFault ε) Stated
  records : List Record

/-- A record of loading. -/
def loadRecord (level : Level) (message : String) : Record :=
  { level := level.name, message, operation := some "load_settings" }

/-- Loads settings; the defaults take the place of an empty document. -/
def load (library : Library ε) (paths : Paths) (source : SchemaSource) (file : File) : Loaded ε :=
  match read library source file with
  | .ok (some s) => {
      outcome := .ok s
      records := [{ loadRecord .info "Loaded comparison settings" with
        context := [("path", .text paths.settings),
          ("key_columns", .verbatim (.list s.keyColumns))] }] }
  | .ok none => {
      outcome := .ok {}
      records := [{ loadRecord .warning "Empty settings file, using defaults" with
        context := [("path", .text paths.settings)] }] }
  | .error f => {
      outcome := .error f
      records := ((f.told? paths).map fun (message, error) =>
        { loadRecord .error message with error := some error }).toList }

end Reconcile.Settings
