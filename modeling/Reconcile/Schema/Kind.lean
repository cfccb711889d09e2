import Reconcile.Document.Value

/-!
# Kinds of values

What schemas tell apart in a document. A truth value is no number here, neither by its kind nor
where values are compared, and a binary number without a fraction is an integer, except in the
first dialect.
-/

namespace Reconcile.Schema

open Reconcile.Document

/-! ## 1. Kinds -/

/-- The kinds that a schema can ask for. -/
inductive Kind where
  | array
  | boolean
  | integer
  | null
  | number
  | object
  | string
  /-- integers that are not written as binary numbers -/
  | exactInteger
  deriving DecidableEq, Repr

namespace Kind

/-- The kinds that have names of their own. -/
def all : List Kind := [.array, .boolean, .integer, .null, .number, .object, .string]

def name : Kind → String
  | .array => "array"
  | .boolean => "boolean"
  | .integer | .exactInteger => "integer"
  | .null => "null"
  | .number => "number"
  | .object => "object"
  | .string => "string"

def ofName? (s : String) : Option Kind := all.find? (·.name == s)

end Kind

/-- Whether a decimal has no fraction. -/
def isWhole (d : Decimal) : Bool :=
  0 ≤ d.exponent || d.coefficient % Nat.pow 10 d.exponent.natAbs == 0

/-- Whether a value is of a kind. -/
def Kind.has : Kind → Value → Bool
  | .array, v => v.isList
  | .object, v => v.isMapping
  | .boolean, .bool _ => true
  | .integer, .int _ | .exactInteger, .int _ => true
  | .integer, .float x => (Value.float x).number?.any isWhole
  | .null, .null => true
  | .number, .int _ | .number, .float _ => true
  | .string, .text _ => true
  | _, _ => false

/-! ## 2. Equality -/

mutual

/-- Equality of values, for which no truth value equals a number. -/
def alike : Value → Value → Bool
  | .labelled _ v, b => alike v b
  | .bool a, b => match b with
    | .bool c => a == c
    | _ => false
  | .list xs, b => match b.bare with
    | .list ys => alikeItems xs ys
    | _ => false
  | .map xs, b => match b.bare with
    | .map ys => xs.length == ys.length && alikeEntries xs ys
    | _ => false
  | a, b => match b with
    | .bool _ => false
    | _ => a == b

def alikeItems : List Value → List Value → Bool
  | [], [] => true
  | x :: xs, y :: ys => alike x y && alikeItems xs ys
  | _, _ => false

def alikeEntries : List (Value × Value) → List (Value × Value) → Bool
  | [], _ => true
  | (k, v) :: rest, ys =>
    ys.any (fun e => Value.sameScalar k e.1 && alike v e.2) && alikeEntries rest ys

end

/-- Whether two values are the same collection, which comes again inside of itself. -/
def sameLabel : Value → Value → Bool
  | .labelled l _, .labelled m _ => l == m
  | _, _ => false

/-- Whether two values are alike, when their collections are compared down to the given depth. Below
    it nothing is known: collections that come again inside of themselves may go on and on. -/
def alikeWithin : Nat → Value → Value → Option Bool
  | 0, _, _ => none
  | depth + 1, a, b =>
    if sameLabel a b then some true
    else match a.opened, b.opened with
    | .list xs, .list ys =>
      if xs.length == ys.length then (xs.zip ys).allM fun (x, y) => alikeWithin depth x y
      else some false
    | .map xs, .map ys =>
      if xs.length == ys.length then xs.allM fun (k, v) =>
        match ys.find? fun e => Value.sameScalar k e.1 with
        | some e => alikeWithin depth v e.2
        | none => some false
      else some false
    | _, _ => some (alike a b)

/-- How deep collections are compared. -/
def maxDepth : Nat := 1000

/-- Whether no value of a list comes twice, if that comes to light. -/
def areDistinct? : List Value → Option Bool
  | [] => some true
  | v :: rest => do
    if ← rest.anyM (alikeWithin maxDepth v) then return false
    areDistinct? rest

/-! ## 3. Order -/

/-- The place of a number in the order: an infinity is before or behind all decimals. -/
def rank? : Value → Option (Int × Decimal)
  | .float x =>
    if x.isNaN then none
    else if x.isInf then some (if x < 0.0 then -1 else 1, Decimal.zero)
    else some (0, Decimal.ofBinary x)
  | v => v.number?.map ((0, ·))

/-- The order of two numbers; there is none when one of them is no number. -/
def orderOf? (a b : Value) : Option Ordering := do
  let (i, x) ← rank? a
  let (j, y) ← rank? b
  return (compare i j).then (x.compare y)

end Reconcile.Schema
