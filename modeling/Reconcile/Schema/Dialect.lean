import Reconcile.Document.Value

/-!
# Dialects

The versions of the schema language. They differ in the keywords that they know, and in what a few
of these mean. A document names its dialect; without a name, or with one that nobody knows, it is
read in the latest.
-/

namespace Reconcile.Schema

open Reconcile.Document

/-- A version of the schema language. -/
inductive Dialect where
  | draft4
  | draft6
  | draft7
  | draft2019
  | draft2020
  deriving DecidableEq, Repr

namespace Dialect

def all : List Dialect := [.draft4, .draft6, .draft7, .draft2019, .draft2020]

/-- The name by which a document chooses the dialect. -/
def name : Dialect → String
  | .draft4 => "http://json-schema.org/draft-04/schema"
  | .draft6 => "http://json-schema.org/draft-06/schema"
  | .draft7 => "http://json-schema.org/draft-07/schema"
  | .draft2019 => "https://json-schema.org/draft/2019-09/schema"
  | .draft2020 => "https://json-schema.org/draft/2020-12/schema"

/-- The dialect with a name, behind which an empty fragment may stand. -/
def ofName? (s : String) : Option Dialect := all.find? fun d => s == d.name || s == d.name ++ "#"

/-- The dialect of a document. -/
def of (document : Value) : Dialect :=
  match document.get? "$schema" with
  | some (.text s) => (ofName? s).getD .draft2020
  | _ => .draft2020

/-! ## 1. Keywords -/

/-- The keywords that all dialects know. -/
def commonKeywords : List String := [
  "$ref", "additionalProperties", "allOf", "anyOf", "enum", "items", "maxItems", "maxLength",
  "maxProperties", "maximum", "minItems", "minLength", "minProperties", "minimum", "multipleOf",
  "not", "oneOf", "pattern", "patternProperties", "properties", "required", "type", "uniqueItems"]

/-- The keywords that came with the second of the dialects and stayed. -/
def laterKeywords : List String :=
  ["const", "contains", "exclusiveMaximum", "exclusiveMinimum", "propertyNames"]

/-- The keywords of the two latest dialects. -/
def latestKeywords : List String := [
  "dependentRequired", "dependentSchemas", "if", "unevaluatedItems", "unevaluatedProperties"]

/-- The keywords that a dialect knows. -/
def keywords : Dialect → List String
  | .draft4 => commonKeywords ++ ["additionalItems", "dependencies"]
  | .draft6 => commonKeywords ++ laterKeywords ++ ["additionalItems", "dependencies"]
  | .draft7 => commonKeywords ++ laterKeywords ++ ["additionalItems", "dependencies", "if"]
  | .draft2019 =>
    commonKeywords ++ laterKeywords ++ latestKeywords ++ ["$recursiveRef", "additionalItems"]
  | .draft2020 =>
    commonKeywords ++ laterKeywords ++ latestKeywords ++ ["$dynamicRef", "prefixItems"]

def knows (d : Dialect) (keyword : String) : Bool := d.keywords.contains keyword

/-- Whether a reference takes the place of all keywords beside it. -/
def refersAlone : Dialect → Bool
  | .draft4 | .draft6 | .draft7 => true
  | .draft2019 | .draft2020 => false

end Dialect

end Reconcile.Schema
