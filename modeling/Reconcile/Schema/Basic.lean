import Reconcile.Pattern.Node
import Reconcile.Schema.Kind

/-!
# Schemas

What a document must be like. A schema is a condition on a value, and every rule of it is a schema
as well; a schema with several rules asks for all of them. Rules for one kind of values accept the
values of all other kinds.
-/

namespace Reconcile

open Reconcile.Document

namespace Schema

/-- A side on which a number is bounded, with or without the bound itself. -/
inductive Bound where
  | least
  | most
  | above
  | below
  deriving DecidableEq, Repr

/-- What is counted: the characters of a text, the items of a list, the entries of a mapping. -/
inductive Measure where
  | characters
  | items
  | entries
  deriving DecidableEq, Repr

/-- A pattern with its text. -/
structure Expected where
  text : String
  pattern : Pattern.Node

end Schema

/-- A condition on values. -/
inductive Schema where
  /-- no value -/
  | never
  /-- what every one of the rules accepts -/
  | all (rules : List Schema)
  | kinds (ks : List Schema.Kind)
  | listed (values : List Value)
  | constant (value : Value)
  | bounded (side : Schema.Bound) (limit : Value)
  | multipleOf (divisor : Value)
  | atLeast (measure : Schema.Measure) (n : Nat)
  | atMost (measure : Schema.Measure) (n : Nat)
  /-- texts in which a pattern occurs -/
  | holding (e : Schema.Expected)
  /-- texts that are patterns -/
  | aPattern
  /-- lists without equal items -/
  | distinct
  /-- lists whose first items are accepted by the schemas, one by one -/
  | leading (schemas : List Schema)
  /-- lists whose items from a place on are accepted -/
  | items (start : Nat) (schema : Schema)
  /-- lists that are no longer; they are told what is the rest -/
  | noItems (start : Nat)
  /-- lists that are no longer; they are told what was not expected -/
  | noFurtherItems (start : Nat)
  /-- lists with an accepted item -/
  | someItem (schema : Schema)
  /-- lists with a number of accepted items -/
  | countedItems (schema : Schema) (least : Nat) (most : Option Nat)
  | properties (schemas : List (String × Schema))
  | matchingProperties (schemas : List (Schema.Expected × Schema))
  /-- mappings whose entries with other keys are accepted -/
  | otherProperties (known : List String) (patterns : List Schema.Expected) (schema : Schema)
  /-- mappings without other keys; without patterns, the keys are told as not expected -/
  | noOtherProperties (known : List String) (patterns : Option (List Schema.Expected))
  /-- mappings whose entries that no rule beside looks at are accepted -/
  | unseenProperties (forbidden : Bool) (schema : Schema) (beside : List Schema)
  /-- lists whose items that no rule beside looks at are accepted -/
  | unseenItems (schema : Schema) (beside : List Schema)
  | required (names : List String)
  /-- mappings that have further keys when they have one -/
  | requiredWith (names : List (String × List String))
  /-- mappings that are accepted when they have a key -/
  | schemasWith (schemas : List (String × Schema))
  /-- mappings whose keys are accepted -/
  | propertyNames (schema : Schema)
  | allOf (schemas : List Schema)
  | anyOf (schemas : List Schema)
  /-- what exactly one of the schemas accepts, which are shown as they were written -/
  | oneOf (schemas : List (Value × Schema))
  /-- what a schema does not accept, which is shown as it was written -/
  | negation (shown : Value) (schema : Schema)
  /-- what one of two schemas accepts, as a third one accepts it or not -/
  | conditional (test yes no : Schema)
  /-- what the schema with a name accepts -/
  | reference (name : String)

namespace Schema

/-- The schema that accepts everything. -/
def anything : Schema := .all []

/-- The kinds that the rules ask for, if one of them does. -/
def kindsAmong : List Schema → Option (List Kind)
  | [] => none
  | .kinds ks :: _ => some ks
  | _ :: rest => kindsAmong rest

end Schema

end Reconcile
