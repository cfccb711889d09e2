import Reconcile.Schema.Reader
import Reconcile.Text.PercentCoded

/-!
# References

The part of a document that a reference leads to. Before the hash sign stands the name of a document
or of a part that is one by itself; behind it steps behind slashes, or the name of an anchor. With
nothing before and behind, it is the document itself.
-/

namespace Reconcile.Schema

open Reconcile.Document

/-! ## 1. Steps -/

/-- A step of a reference, with a slash or a tilde for the signs that stand for them. -/
def stepText : List Char → List Char
  | '~' :: '1' :: rest => '/' :: stepText rest
  | '~' :: '0' :: rest => '~' :: stepText rest
  | c :: rest => c :: stepText rest
  | [] => []

/-- The value that a step leads to. -/
def stepInto (v : Value) (step : String) : Option Value :=
  match v with
  | .list xs => step.toNat?.bind fun n => xs[n]?
  | _ => v.get? step

/-- The value that steps lead to, one after the other. -/
def stepsInto (v : Value) (steps : List (List Char)) : Option Value :=
  steps.foldlM (fun v step => stepInto v (String.ofList (stepText step))) v

/-! ## 2. Names -/

mutual

/-- The first part of a value that passes a test, the value itself before its parts. -/
def firstPart (test : Value → Bool) : Value → Option Value
  | .list xs => if test (.list xs) then some (.list xs) else firstPartOf test xs
  | .map es => if test (.map es) then some (.map es) else firstPartIn test es
  | v => if test v then some v else none

def firstPartOf (test : Value → Bool) : List Value → Option Value
  | [] => none
  | v :: rest => (firstPart test v).or (firstPartOf test rest)

def firstPartIn (test : Value → Bool) : List (Value × Value) → Option Value
  | [] => none
  | (_, v) :: rest => (firstPart test v).or (firstPartIn test rest)

end

/-- Whether a value has one of the given texts under one of the given keys. -/
def isNamed (keys texts : List String) (v : Value) : Bool :=
  keys.any fun key => texts.any fun text => (v.get? key).any (· == .text text)

/-- The key under which a part of a document has its name. -/
def Dialect.nameKey : Dialect → String
  | .draft4 => "id"
  | _ => "$id"

/-- Whether a value is the part with an anchor. -/
def hasAnchor (d : Dialect) (anchor : String) (v : Value) : Bool :=
  match d with
  | .draft2019 | .draft2020 => isNamed ["$anchor", "$dynamicAnchor"] [anchor] v
  | _ => isNamed [d.nameKey] ["#" ++ anchor] v

/-! ## 3. The whole -/

/-- The schema that a reference within a document leads to, if it leads to one. -/
def referred? (document : Value) (reference : String) : Option Schema := do
  let d := Dialect.of document
  let cs := reference.toList
  let base := String.ofList (cs.takeWhile (· != '#'))
  let root ←
    if base.isEmpty then some document
    else firstPart (isNamed [d.nameKey] [base, base ++ "#"]) document
  let target ← match Text.percentDecoded ((cs.dropWhile (· != '#')).drop 1) with
    | [] => some root
    | '/' :: rest => stepsInto root (Text.pieces '/' rest)
    | anchor => firstPart (hasAnchor d (String.ofList anchor)) root
  match target with
  | .bool _ | .map _ => return ofValue d target
  | _ => none

end Reconcile.Schema
