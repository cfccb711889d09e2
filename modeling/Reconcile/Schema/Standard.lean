import Reconcile.Schema.Check
import Reconcile.Schema.Reference

/-!
# The schema of schemas

What a document must be like to be a schema, in each dialect. Where schemas hold schemas, the
schema of schemas refers to itself. The first failure of a document is told, so the rules stand in
the order in which they are looked at.
-/

namespace Reconcile.Schema

open Reconcile.Document

/-! ## 1. Common parts -/

/-- The name by which the schema of schemas refers to itself. -/
def itself : Schema := .all [.reference "#"]

def someText : Schema := .all [.kinds [.string]]

def someNumber : Schema := .all [.kinds [.number]]

def truthValue : Schema := .all [.kinds [.boolean]]

def someList : Schema := .all [.kinds [.array], .items 0 anything]

def natural : Schema := .all [.kinds [.integer], .bounded .least (.int 0)]

def schemaList : Schema := .all [.kinds [.array], .atLeast .items 1, .items 0 itself]

def textList : Schema := .all [.kinds [.array], .items 0 someText, .distinct]

def kindName : Schema := .all [.listed (Kind.all.map fun k => .text k.name)]

/-- One kind, or several different ones. -/
def kindNames : Schema :=
  .all [.anyOf [kindName,
    .all [.kinds [.array], .items 0 kindName, .atLeast .items 1, .distinct]]]

def positive : Schema := .all [.kinds [.number], .bounded .above (.int 0)]

def patternText : Schema := .all [.kinds [.string], .aPattern]

/-- A mapping to values that a schema accepts. -/
def mappingTo (s : Schema) : Schema := .all [.kinds [.object], .otherProperties [] [] s]

/-- A mapping from patterns to schemas. -/
def patternMapping : Schema :=
  .all [.kinds [.object], .otherProperties [] [] itself, .propertyNames (.all [.aPattern])]

/-- One schema for all items, or a schema for each of the first ones. -/
def schemaOrList : Schema := .all [.anyOf [itself, schemaList]]

/-- A schema or names, under every key. -/
def dependencyMapping : Schema := mappingTo (.all [.anyOf [itself, textList]])

/-- A text in which a pattern occurs. -/
def textHolding (text : String) : Schema :=
  .all (.kinds [.string] :: ((expected? text).map .holding).toList)

/-! ## 2. The two latest dialects -/

/-- A mapping or a truth value whose entries are accepted. -/
def schemaWith (entries : List (String × Schema)) : Schema :=
  .all [.kinds [.object, .boolean], .properties entries]

/-- The rule for the kinds of values. -/
def kindEntries : List (String × Schema) := [("type", kindNames)]

def listingEntries : List (String × Schema) := [("enum", someList)]

def measureEntries : List (String × Schema) := [
  ("multipleOf", positive), ("maximum", someNumber), ("exclusiveMaximum", someNumber),
  ("minimum", someNumber), ("exclusiveMinimum", someNumber), ("maxLength", natural),
  ("minLength", natural), ("pattern", patternText), ("maxItems", natural), ("minItems", natural),
  ("uniqueItems", truthValue), ("maxContains", natural), ("minContains", natural),
  ("maxProperties", natural), ("minProperties", natural), ("required", textList),
  ("dependentRequired", mappingTo textList)]

def descriptionEntries : List (String × Schema) := [
  ("title", someText), ("description", someText), ("deprecated", truthValue),
  ("readOnly", truthValue), ("writeOnly", truthValue), ("examples", someList)]

def formatEntries : List (String × Schema) := [("format", someText)]

def mappingsOfSchemas : List (String × Schema) := [
  ("properties", mappingTo itself), ("patternProperties", patternMapping),
  ("dependentSchemas", mappingTo itself), ("propertyNames", itself), ("if", itself),
  ("then", itself), ("else", itself), ("allOf", schemaList), ("anyOf", schemaList),
  ("oneOf", schemaList), ("not", itself)]

/-- The name of a document or a part, without a fragment. -/
def partName : Schema := textHolding "^[^#]*#?$"

def latestAnchor : Schema := textHolding "^[A-Za-z_][-A-Za-z0-9._]*$"

/-- The vocabularies of the latest dialect, one after the other. -/
def latestVocabularies : List (List (String × Schema)) := [
  [("$id", partName), ("$schema", someText), ("$ref", someText), ("$anchor", latestAnchor),
    ("$dynamicRef", someText), ("$dynamicAnchor", latestAnchor),
    ("$vocabulary", mappingTo truthValue), ("$comment", someText), ("$defs", mappingTo itself)],
  [("prefixItems", schemaList), ("items", itself), ("contains", itself),
    ("additionalProperties", itself)] ++ mappingsOfSchemas,
  [("unevaluatedItems", itself), ("unevaluatedProperties", itself)],
  kindEntries ++ listingEntries ++ measureEntries,
  descriptionEntries,
  formatEntries,
  [("contentEncoding", someText), ("contentMediaType", someText), ("contentSchema", itself)]]

/-- The schema of schemas in the latest dialect. -/
def standard2020 : Schema :=
  .all [
    .allOf (latestVocabularies.map schemaWith),
    .kinds [.object, .boolean],
    .properties [("definitions", mappingTo itself), ("dependencies", dependencyMapping),
      ("$recursiveAnchor", latestAnchor), ("$recursiveRef", someText)]]

/-- The vocabularies of the dialect before. -/
def earlierVocabularies : List (List (String × Schema)) := [
  [("$id", partName), ("$schema", someText),
    ("$anchor", textHolding "^[A-Za-z][-A-Za-z0-9.:_]*$"), ("$ref", someText),
    ("$recursiveRef", someText), ("$recursiveAnchor", truthValue),
    ("$vocabulary", mappingTo truthValue), ("$comment", someText), ("$defs", mappingTo itself)],
  [("additionalItems", itself), ("unevaluatedItems", itself), ("items", schemaOrList),
    ("contains", itself), ("additionalProperties", itself), ("unevaluatedProperties", itself)] ++
    mappingsOfSchemas,
  measureEntries ++ listingEntries ++ kindEntries,
  descriptionEntries,
  formatEntries,
  [("contentMediaType", someText), ("contentEncoding", someText), ("contentSchema", itself)]]

/-- The schema of schemas in the dialect before. -/
def standard2019 : Schema :=
  .all [
    .allOf (earlierVocabularies.map schemaWith),
    .kinds [.object, .boolean],
    .properties [("definitions", mappingTo itself), ("dependencies", dependencyMapping)]]

/-! ## 3. The older dialects -/

/-- A natural number that may be left out. -/
def optionalNatural : Schema := .all [.allOf [natural]]

/-- The keywords for lists and counts in the older dialects. -/
def olderCounts : List (String × Schema) := [
  ("maxLength", natural), ("minLength", optionalNatural), ("pattern", patternText)]

def olderBounds : List (String × Schema) := [
  ("multipleOf", positive), ("maximum", someNumber), ("exclusiveMaximum", someNumber),
  ("minimum", someNumber), ("exclusiveMinimum", someNumber)]

def olderLists (further : Schema) : List (String × Schema) := [
  ("additionalItems", further), ("items", schemaOrList), ("maxItems", natural),
  ("minItems", optionalNatural), ("uniqueItems", truthValue)]

def olderSizes : List (String × Schema) :=
  [("maxProperties", natural), ("minProperties", optionalNatural)]

def olderCombinations : List (String × Schema) :=
  [("allOf", schemaList), ("anyOf", schemaList), ("oneOf", schemaList), ("not", itself)]

/-- The schema of schemas in the seventh draft. -/
def standard7 : Schema :=
  schemaWith (
    [("$id", someText), ("$schema", someText), ("$ref", someText), ("$comment", someText),
      ("title", someText), ("description", someText), ("readOnly", truthValue),
      ("examples", someList)] ++
    olderBounds ++ olderCounts ++ olderLists itself ++ [("contains", itself)] ++ olderSizes ++
    [("required", textList), ("additionalProperties", itself),
      ("definitions", mappingTo itself), ("properties", mappingTo itself),
      ("patternProperties", patternMapping), ("dependencies", dependencyMapping),
      ("propertyNames", itself), ("enum", someList), ("type", kindNames), ("format", someText),
      ("contentMediaType", someText), ("contentEncoding", someText), ("if", itself),
      ("then", itself), ("else", itself)] ++
    olderCombinations)

/-- The schema of schemas in the sixth draft. -/
def standard6 : Schema :=
  schemaWith (
    [("$id", someText), ("$schema", someText), ("$ref", someText), ("title", someText),
      ("description", someText), ("examples", someList)] ++
    olderBounds ++ olderCounts ++ olderLists itself ++ [("contains", itself)] ++ olderSizes ++
    [("required", textList), ("additionalProperties", itself),
      ("definitions", mappingTo itself), ("properties", mappingTo itself),
      ("patternProperties", mappingTo itself), ("dependencies", dependencyMapping),
      ("propertyNames", itself), ("enum", someList), ("type", kindNames),
      ("format", someText)] ++
    olderCombinations)

/-! ## 4. The first dialect -/

/-- A natural number that is not written as a binary number. -/
def exactNatural : Schema := .all [.kinds [.exactInteger], .bounded .least (.int 0)]

def optionalExactNatural : Schema := .all [.allOf [exactNatural]]

/-- Names, one at least and none twice. -/
def someNames : Schema := .all [.kinds [.array], .items 0 someText, .atLeast .items 1, .distinct]

/-- A truth value or a schema. -/
def flagOrSchema : Schema := .all [.anyOf [truthValue, itself]]

/-- The schema of schemas in the fourth draft. -/
def standard4 : Schema :=
  .all [.kinds [.object], .properties (
    [("id", someText), ("$schema", someText), ("title", someText), ("description", someText),
      ("multipleOf", .all [.kinds [.number], .bounded .above (.int 0)]),
      ("maximum", someNumber), ("exclusiveMaximum", truthValue), ("minimum", someNumber),
      ("exclusiveMinimum", truthValue), ("maxLength", exactNatural),
      ("minLength", optionalExactNatural), ("pattern", patternText),
      ("additionalItems", flagOrSchema), ("items", schemaOrList), ("maxItems", exactNatural),
      ("minItems", optionalExactNatural), ("uniqueItems", truthValue),
      ("maxProperties", exactNatural), ("minProperties", optionalExactNatural),
      ("required", someNames), ("additionalProperties", flagOrSchema),
      ("definitions", mappingTo itself), ("properties", mappingTo itself),
      ("patternProperties", mappingTo itself),
      ("dependencies", mappingTo (.all [.anyOf [itself, someNames]])),
      ("enum", .all [.kinds [.array], .atLeast .items 1, .distinct]), ("type", kindNames),
      ("format", someText)] ++
    olderCombinations),
    .requiredWith [("exclusiveMaximum", ["maximum"]), ("exclusiveMinimum", ["minimum"])]]

/-! ## 5. Checking a document against a schema -/

/-- The schema of schemas. -/
def standard : Dialect → Schema
  | .draft4 => standard4
  | .draft6 => standard6
  | .draft7 => standard7
  | .draft2019 => standard2019
  | .draft2020 => standard2020

/-- How many references may lead from one to the next. -/
def maxReferences : Nat := 1000

/-- Why a document is no schema. -/
def schemaFailure? (document : Value) : Except Breakdown (Option Failure) :=
  let s := standard (Dialect.of document)
  (findings (referral (fun _ => some s) maxReferences) none s document).first

/-- What is found in a value under the schema that a document writes down. -/
def findingsUnderDocument (document value : Value) : Findings :=
  findings (referral (referred? document) maxReferences) none (ofDocument document) value

end Reconcile.Schema
