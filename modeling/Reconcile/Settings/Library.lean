import Reconcile.Document.Value

/-!
# Libraries

Two steps of loading are left to libraries: reading the document that a settings file holds, and
checking a document against a schema. A library tells the faults that it is made for in words. What
else comes out of it is of a type of its own, of which nothing is known.
-/

namespace Reconcile.Settings

open Reconcile.Document

/-- Why a library reads no document. -/
inductive ReadFault (ε : Type) where
  | malformed (message : String)
  | other (e : ε)

/-- Why a library does not accept a document under a schema. -/
inductive CheckFault (ε : Type) where
  | refused (message : String)
  /-- what the document was to be checked against is no schema -/
  | badSchema (message : String)
  | other (e : ε)

/-- The libraries that loading relies on. -/
structure Library (ε : Type) where
  /-- the document that a file with these bytes holds; they are decoded while it is read -/
  read (bytes : List UInt8) : Except (ReadFault ε) Value
  /-- checks a document against the schema that another one writes down -/
  check (schema document : Value) : Except (CheckFault ε) Unit

end Reconcile.Settings
