import Reconcile.Pattern.Reader
import Reconcile.Schema.Basic
import Reconcile.Schema.Dialect
import Reconcile.Text.Pieces

/-!
# Reading schemas

The schema that a document writes down. A mapping is the schema with the rules of all its keywords,
a truth value is the schema that accepts everything or nothing. Some keywords depend on others of
the same mapping, so the parts of all of them are read first and then put together. A keyword that
is not known, or whose value makes no sense, is no rule.
-/

namespace Reconcile.Schema

open Reconcile.Document

/-! ## 1. Parts -/

/-- What a keyword holds: schemas in one of three ways, or anything else. -/
inductive Held where
  | one (schema : Schema)
  | many (schemas : List Schema)
  | named (schemas : List (String × Schema))
  | plain

/-- A keyword with its value and the schemas that the value holds. -/
structure Part where
  keyword : String
  value : Value
  held : Held

/-- How a keyword holds schemas. -/
inductive Holding where
  | one
  | oneOrMany
  | many
  | named
  | none
  deriving DecidableEq

def oneKeywords : List String := [
  "additionalItems", "additionalProperties", "contains", "else", "if", "not", "propertyNames",
  "then", "unevaluatedItems", "unevaluatedProperties"]

def manyKeywords : List String := ["allOf", "anyOf", "oneOf", "prefixItems"]

def namedKeywords : List String :=
  ["dependencies", "dependentSchemas", "patternProperties", "properties"]

def Holding.of (keyword : String) : Holding :=
  if keyword == "items" then .oneOrMany
  else if oneKeywords.contains keyword then .one
  else if manyKeywords.contains keyword then .many
  else if namedKeywords.contains keyword then .named
  else .none

def partWith (parts : List Part) (keyword : String) : Option Part :=
  parts.find? (·.keyword == keyword)

def valueOf (parts : List Part) (keyword : String) : Value :=
  ((partWith parts keyword).map (·.value)).getD .null

def schemaOf? (parts : List Part) (keyword : String) : Option Schema :=
  match partWith parts keyword with
  | some ⟨_, _, .one s⟩ => some s
  | _ => none

def namesOf (parts : List Part) (keyword : String) : List String :=
  match partWith parts keyword with
  | some ⟨_, _, .named schemas⟩ => schemas.map (·.1)
  | _ => []

/-! ## 2. Rules -/

/-- A text as a pattern, if it is one. -/
def expected? (text : String) : Option Expected :=
  (Pattern.read text.toList).toOption.map fun p => ⟨text, p⟩

/-- A number that counts something. -/
def count? : Value → Option Nat
  | .int n => if n < 0 then none else some n.toNat
  | .float x => match (Value.float x).number? with
    | some d => if isWhole d && !d.negative then some (d.scaledTo (min d.exponent 0) /
        Nat.pow 10 (min d.exponent 0).natAbs).toNat else none
    | none => none
  | _ => none

def textsIn : Value → List String
  | .list xs => xs.filterMap fun v => match v with
    | .text s => some s
    | _ => none
  | .text s => [s]
  | _ => []

/-- The lists of names under the keys of a mapping. -/
def nameLists : Value → List (String × List String)
  | .map es => es.filterMap fun (k, v) => match k, v with
    | .text name, .list xs => some (name, textsIn (.list xs))
    | _, _ => none
  | _ => []

/-- The rules that count something. -/
def countRule? (keyword : String) (n : Nat) : Option Schema :=
  match keyword with
  | "minLength" => some (.atLeast .characters n)
  | "maxLength" => some (.atMost .characters n)
  | "minItems" => some (.atLeast .items n)
  | "maxItems" => some (.atMost .items n)
  | "minProperties" => some (.atLeast .entries n)
  | "maxProperties" => some (.atMost .entries n)
  | _ => none

/-- The kinds with names. In the first dialect no binary number is an integer. -/
def kindsNamed (d : Dialect) (names : List String) : List Kind :=
  (names.filterMap Kind.ofName?).map fun k =>
    if d == .draft4 && k == .integer then .exactInteger else k

/-- Whether a keyword beside says that a bound itself is excluded. -/
def isExcluded (parts : List Part) (keyword : String) : Bool := !(valueOf parts keyword).isNothing

/-- The rules that hold no schemas. -/
def plainRules (d : Dialect) (parts : List Part) (part : Part) : List Schema :=
  match part.keyword, part.value with
  | "type", v => [.kinds (kindsNamed d (textsIn v))]
  | "enum", .list vs => [.listed vs]
  | "const", v => [.constant v]
  | "minimum", v =>
    [.bounded (if d == .draft4 && isExcluded parts "exclusiveMinimum" then .above else .least) v]
  | "maximum", v =>
    [.bounded (if d == .draft4 && isExcluded parts "exclusiveMaximum" then .below else .most) v]
  | "exclusiveMinimum", v => [.bounded .above v]
  | "exclusiveMaximum", v => [.bounded .below v]
  | "multipleOf", v => [.multipleOf v]
  | "pattern", .text s => ((expected? s).map .holding).toList
  | "uniqueItems", .bool true => [.distinct]
  | "required", v => [.required (textsIn v)]
  | "dependentRequired", v => [.requiredWith (nameLists v)]
  | "$ref", .text name | "$dynamicRef", .text name => [.reference name]
  | "$recursiveRef", .text _ => [.reference "#"]
  | keyword, v => ((count? v).bind (countRule? keyword)).toList

/-- The schemas that a keyword holds together with what shows them. -/
def shownSchemas (value : Value) (schemas : List Schema) : List (Value × Schema) :=
  match value with
  | .list vs => vs.zip schemas
  | _ => []

/-- The patterns for keys, if there is a keyword for them. -/
def keyPatterns? (parts : List Part) : Option (List Expected) :=
  (partWith parts "patternProperties").map fun _ =>
    (namesOf parts "patternProperties").filterMap expected?

/-- The rule about the keys that are mentioned nowhere. -/
def otherRules (parts : List Part) (value : Value) (s : Schema) : List Schema :=
  let known := namesOf parts "properties"
  match value with
  | .bool false => [.noOtherProperties known (keyPatterns? parts)]
  | _ => [.otherProperties known ((keyPatterns? parts).getD []) s]

/-- The length of the list of schemas under a keyword. -/
def manyCount (parts : List Part) (keyword : String) : Nat :=
  match partWith parts keyword with
  | some ⟨_, _, .many schemas⟩ => schemas.length
  | _ => 0

/-- The rule about the items behind those that have schemas one by one. -/
def furtherRules (parts : List Part) (value : Value) (s : Schema) : List Schema :=
  match partWith parts "items" with
  | some ⟨_, _, .many schemas⟩ => match value with
    | .bool false => [.noFurtherItems schemas.length]
    | _ => [.items schemas.length s]
  | _ => []

/-- The rule for one schema under a keyword. -/
def oneRules (d : Dialect) (parts : List Part) (part : Part) (s : Schema) : List Schema :=
  match part.keyword, d with
  | "additionalProperties", _ => otherRules parts part.value s
  | "propertyNames", _ => [.propertyNames s]
  | "not", _ => [.negation part.value s]
  | "if", _ => [.conditional s ((schemaOf? parts "then").getD anything)
      ((schemaOf? parts "else").getD anything)]
  | "contains", .draft6 | "contains", .draft7 => [.someItem s]
  | "contains", _ =>
    [.countedItems s ((count? (valueOf parts "minContains")).getD 1)
      (count? (valueOf parts "maxContains"))]
  | "items", .draft2020 =>
    let start := manyCount parts "prefixItems"
    match part.value with
    | .bool false => [.noItems start]
    | _ => [.items start s]
  | "items", _ => [.items 0 s]
  | "additionalItems", _ => furtherRules parts part.value s
  | _, _ => []

/-- The rule for several schemas under a keyword. -/
def manyRules (part : Part) (schemas : List Schema) : List Schema :=
  match part.keyword with
  | "allOf" => [.allOf schemas]
  | "anyOf" => [.anyOf schemas]
  | "oneOf" => [.oneOf (shownSchemas part.value schemas)]
  | "items" | "prefixItems" => [.leading schemas]
  | _ => []

/-- The rule for schemas with names under a keyword. -/
def namedRules (part : Part) (schemas : List (String × Schema)) : List Schema :=
  match part.keyword with
  | "properties" => [.properties schemas]
  | "patternProperties" =>
    [.matchingProperties (schemas.filterMap fun (text, s) => (expected? text).map (·, s))]
  | "dependencies" => [.requiredWith (nameLists part.value), .schemasWith schemas]
  | "dependentSchemas" => [.schemasWith schemas]
  | _ => []

/-- The rules of one keyword, if the dialect knows it. -/
def rulesOf (d : Dialect) (parts : List Part) (part : Part) : List Schema :=
  if !d.knows part.keyword then []
  else match part.held with
    | .one s => oneRules d parts part s
    | .many schemas => manyRules part schemas
    | .named schemas => namedRules part schemas
    | .plain => plainRules d parts part

/-- Whether a value forbids what it is about. -/
def isForbidding : Value → Bool
  | .bool false => true
  | _ => false

/-- The rules of one keyword, which may be about what the other rules leave. -/
def rulesBeside (d : Dialect) (parts : List Part) (others : List Schema) (part : Part) :
    List Schema :=
  match part.keyword, part.held with
  | "unevaluatedProperties", .one s =>
    if d.knows part.keyword then [.unseenProperties (isForbidding part.value) s others] else []
  | "unevaluatedItems", .one s =>
    if d.knows part.keyword then [.unseenItems s others] else []
  | _, _ => rulesOf d parts part

/-- The schema with the given parts. -/
def ofParts (d : Dialect) (parts : List Part) : Schema :=
  match d.refersAlone, partWith parts "$ref" with
  | true, some p => .all (rulesOf d parts p)
  | _, _ => .all (parts.flatMap (rulesBeside d parts (parts.flatMap (rulesOf d parts))))

/-! ## 3. Documents -/

mutual

/-- The schema that a value writes down. -/
def ofValue (d : Dialect) : Value → Schema
  | .bool false => .never
  | .map es => ofParts d (partsOf d es)
  | _ => anything

/-- The parts that entries write down. -/
def partsOf (d : Dialect) : List (Value × Value) → List Part
  | [] => []
  | (.text keyword, v) :: rest =>
    let held : Held := match Holding.of keyword with
      | .none => .plain
      | .one => .one (ofValue d v)
      | .many => .many (schemasIn d v)
      | .named => .named (namedIn d v)
      | .oneOrMany => match schemasIn d v with
        | [] => .one (ofValue d v)
        | schemas => .many schemas
    { keyword, value := v, held } :: partsOf d rest
  | _ :: rest => partsOf d rest

/-- The schemas in a list. -/
def schemasIn (d : Dialect) : Value → List Schema
  | .list vs => ofValues d vs
  | _ => []

def ofValues (d : Dialect) : List Value → List Schema
  | [] => []
  | v :: rest => ofValue d v :: ofValues d rest

/-- The schemas under the keys of a mapping. -/
def namedIn (d : Dialect) : Value → List (String × Schema)
  | .map es => ofEntries d es
  | _ => []

def ofEntries (d : Dialect) : List (Value × Value) → List (String × Schema)
  | [] => []
  | (.text name, v) :: rest => (name, ofValue d v) :: ofEntries d rest
  | _ :: rest => ofEntries d rest

end

/-- The schema that a document writes down. -/
def ofDocument (document : Value) : Schema := ofValue (Dialect.of document) document

end Reconcile.Schema
