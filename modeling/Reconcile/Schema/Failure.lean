import Reconcile.Schema.Basic

/-!
# Failures

Why a schema does not accept a value. Of several failures one is told: the one nearest to the root
of the document. When a value is accepted by none of several schemas, the failures below it are
told instead of the general one if one of them goes deepest.
-/

namespace Reconcile.Schema

open Reconcile.Calendar (Moment)
open Reconcile.Document

/-! ## 1. Causes -/

/-- What is wrong with a value. -/
inductive Cause where
  | notAllowed
  | wrongKind (kinds : List Kind)
  | notListed (values : List Value)
  | notConstant (value : Value)
  | outOfBounds (side : Bound) (limit : Value)
  | notMultiple (divisor : Value)
  | tooFew (measure : Measure) (least : Nat)
  | tooMany (measure : Measure) (most : Nat)
  | noMatch (pattern : String)
  | noPattern
  | notDistinct
  | moreItems (start : Nat) (rest : List Value)
  | furtherItems (rest : List Value)
  | noItemAccepted
  | noSuchItem
  | tooFewSuchItems (least found : Nat)
  | tooManySuchItems (most : Nat)
  | otherNames (names : List Value)
  | unmatchedNames (names : List Value) (patterns : List String)
  | unseenNames (forbidden : Bool) (names : List Value)
  | unseenItems (items : List Value)
  | missing (name : String)
  | missingWith (name key : String)
  | acceptedByNone (exactlyOne : Bool)
  | acceptedBySeveral (schemas : List Value)
  | acceptedAgainst (schema : Value)

/-- A failure of a value, which is found by the path from the root. -/
structure Failure where
  cause : Cause
  value : Value
  path : List Value := []
  /-- whether the value is of a kind that the schema asks for beside what failed -/
  isOfKind : Bool := false
  /-- the failures of the alternatives -/
  alternatives : List Failure := []

/-! ## 2. Messages -/

def Bound.phrase : Bound → String
  | .least => "is less than the minimum of "
  | .most => "is greater than the maximum of "
  | .above => "is less than or equal to the minimum of "
  | .below => "is greater than or equal to the maximum of "

def tooFewPhrase (measure : Measure) (least : Nat) : String :=
  if least == 1 then "should be non-empty"
  else match measure with
    | .characters | .items => "is too short"
    | .entries => "does not have enough properties"

def tooManyPhrase (measure : Measure) (most : Nat) : String :=
  if most == 0 then "is expected to be empty"
  else match measure with
    | .characters | .items => "is too long"
    | .entries => "has too many properties"

def shownAll (vs : List Value) : String := ", ".intercalate (vs.map Value.shown)

def shownTexts (ss : List String) : String := shownAll (ss.map .text)

/-- What is not expected, and the verb that goes with its number. -/
def unexpected (vs : List Value) : String :=
  "(" ++ shownAll vs ++ (if vs.length == 1 then " was" else " were") ++ " unexpected)"

/-- The values that a message shows. -/
def Cause.shows (value : Value) : Cause → List Value
  | .notListed vs => value :: vs
  | .notConstant v => [v]
  | .outOfBounds _ limit => [value, limit]
  | .notMultiple d => [value, d]
  | .moreItems _ rest | .furtherItems rest | .unseenItems rest => rest
  | .otherNames names | .unmatchedNames names _ | .unseenNames _ names => names
  | .acceptedBySeveral ss => value :: ss
  | .acceptedAgainst s => [value, s]
  | .tooFewSuchItems _ _ | .tooManySuchItems _ | .missing _ | .missingWith _ _ => []
  | .notAllowed | .wrongKind _ | .tooFew _ _ | .tooMany _ _ | .noMatch _ | .noPattern | .notDistinct
  | .noItemAccepted | .noSuchItem | .acceptedByNone _ => [value]

/-- What is wrong with a value, in words. -/
def Cause.message (value : Value) : Cause → String
  | .notAllowed => "False schema does not allow " ++ value.shown
  | .wrongKind ks => value.shown ++ " is not of type " ++ shownTexts (ks.map Kind.name)
  | .notListed vs => value.shown ++ " is not one of " ++ (Value.list vs).shown
  | .notConstant v => v.shown ++ " was expected"
  | .outOfBounds side limit => value.shown ++ " " ++ side.phrase ++ limit.shown
  | .notMultiple d => value.shown ++ " is not a multiple of " ++ d.shown
  | .tooFew m n => value.shown ++ " " ++ tooFewPhrase m n
  | .tooMany m n => value.shown ++ " " ++ tooManyPhrase m n
  | .noMatch p => value.shown ++ " does not match " ++ Text.quoted p
  | .noPattern => value.shown ++ " is not a 'regex'"
  | .notDistinct => value.shown ++ " has non-unique elements"
  | .moreItems start rest =>
    let items := if start == 1 then "item" else "items"
    let found := match rest with
      | [v] => v.shown
      | vs => (Value.list vs).shown
    s!"Expected at most {start} {items} but found {rest.length} extra: " ++ found
  | .furtherItems rest => "Additional items are not allowed " ++ unexpected rest
  | .noItemAccepted => "None of " ++ value.shown ++ " are valid under the given schema"
  | .noSuchItem => value.shown ++ " does not contain items matching the given schema"
  | .tooFewSuchItems least found =>
    s!"Too few items match the given schema (expected at least {least} but only {found} matched)"
  | .tooManySuchItems most =>
    s!"Too many items match the given schema (expected at most {most})"
  | .otherNames names => "Additional properties are not allowed " ++ unexpected names
  | .unmatchedNames names patterns =>
    shownAll names ++ (if names.length == 1 then " does" else " do") ++
      " not match any of the regexes: " ++ shownTexts patterns
  | .unseenNames forbidden names =>
    "Unevaluated properties are not " ++
      (if forbidden then "allowed " else "valid under the given schema ") ++ unexpected names
  | .unseenItems found => "Unevaluated items are not allowed " ++ unexpected found
  | .missing name => Text.quoted name ++ " is a required property"
  | .missingWith name key => Text.quoted name ++ " is a dependency of " ++ Text.quoted key
  | .acceptedByNone _ => value.shown ++ " is not valid under any of the given schemas"
  | .acceptedBySeveral ss => value.shown ++ " is valid under each of " ++ shownAll ss
  | .acceptedAgainst s => value.shown ++ " should not be valid under " ++ s.shown

namespace Failure

def message (f : Failure) : String := f.cause.message f.value

/-- Whether all values in the message of a failure can be shown. -/
def isShowable (f : Failure) : Bool := (f.cause.shows f.value).all Value.isShowable

/-- The failure as one of the value that has this one behind the given step. -/
def behind (step : Value) (f : Failure) : Failure := { f with path := step :: f.path }

/-! ## 3. Relevance -/

/-- Whether a failure only says that alternatives failed. -/
def isGeneral (f : Failure) : Bool :=
  match f.cause with
  | .acceptedByNone _ | .acceptedBySeveral _ => true
  | _ => false

/-- The order of two moments that both have a zone or both have none. -/
def momentOrder? (a b : Moment) : Option Ordering :=
  if a.zone.isSome == b.zone.isSome then some (compare a.instant b.instant) else none

/-- The order of two steps of a path, texts by their characters and numbers by what they count.
    Steps of different kinds have none. -/
def stepOrder? : Value → Value → Option Ordering
  | .text a, .text b => some (compare a b)
  | .null, .null => some .eq
  | .day a, .day b => some (compare a.number b.number)
  | .instant a, .instant b => momentOrder? a b
  | .bytes as, .bytes bs => some (compare as bs)
  | a, b => orderOf? a b

def pathOrder? : List Value → List Value → Option Ordering
  | a :: as, b :: bs =>
    if a == b then pathOrder? as bs else stepOrder? a b
  | as, bs => some (compare as.length bs.length)

/-- The order of failures by relevance: a short path is more relevant than a long one, then a later
    one than an earlier one, then a definite failure than a general one, and last the failure of a
    value that has not even the right kind. -/
def order? (a b : Failure) : Option Ordering := do
  let depth := compare b.path.length a.path.length
  if depth != .eq then return depth
  let path ← pathOrder? a.path b.path
  return (path.then (compare b.isGeneral.toNat a.isGeneral.toNat)).then
    (compare b.isOfKind.toNat a.isOfKind.toNat)

/-- The most relevant failure, of equally relevant ones the first. -/
def mostRelevant? (f : Failure) : List Failure → Option Failure
  | [] => some f
  | g :: rest => do
    match ← order? g f with
    | .gt => mostRelevant? g rest
    | _ => mostRelevant? f rest

/-- The least relevant of some failures, each of them with what it is narrowed down to; whether it is
    the only one of its relevance is told as well. -/
def leastRelevant? {α : Type} (f : Failure × α) (only : Bool) :
    List (Failure × α) → Option ((Failure × α) × Bool)
  | [] => some (f, only)
  | g :: rest => do
    match ← order? g.1 f.1 with
    | .lt => leastRelevant? g true rest
    | .eq => leastRelevant? f false rest
    | .gt => leastRelevant? f only rest

mutual

/-- The failure that says most: as long as one of the alternatives is least relevant by itself, this
    one takes the place of the general failure. -/
def narrowed? : Failure → Option Failure
  | ⟨cause, value, path, isOfKind, alternatives⟩ =>
    match alternativesNarrowed alternatives with
    | [] => some ⟨cause, value, path, isOfKind, alternatives⟩
    | a :: rest => do
      let ((_, narrow), only) ← leastRelevant? a true rest
      if only then narrow else return ⟨cause, value, path, isOfKind, alternatives⟩

def alternativesNarrowed : List Failure → List (Failure × Option Failure)
  | [] => []
  | f :: rest => (f, narrowed? f) :: alternativesNarrowed rest

end

end Failure

end Reconcile.Schema
