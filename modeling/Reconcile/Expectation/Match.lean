import Reconcile.Decimal.Rounding
import Reconcile.Expectation.Arguments
import Reconcile.Expectation.Embedded

/-!
# Matching

Whether an actual value is what is expected. An actual value may be absent. Faults of an
expression are found whether or not the actual value would match, but a date format that asks for
a part twice is noticed only when there is a date to read. Every ISO year of a date is looked at,
unless another rule is given.
-/

namespace Reconcile.Expectation

open Reconcile.Text
open Reconcile.Calendar (IsoRule)

/-! ## 1. Literals and sentinels -/

/-- Whether a literal is the actual value, perhaps regardless of case. -/
def literalMatches (expected actual : Option String) (caseSensitive : Bool) : Bool :=
  match expected, actual with
  | none, none => true
  | some e, some a => if caseSensitive then e == a else fold e == fold a
  | _, _ => false

def isAbsentOrEmpty (cell : Option String) : Bool := cell.all String.isEmpty

def Sentinel.accepts (s : Sentinel) (actual : Option String) : Bool :=
  match s with
  | .isNull | .isNotPresent | .isNotSet => actual.isNone
  | .isNotNull | .isPresent | .isSet => actual.isSome
  | .isNullOrEmpty | .isNotPresentOrEmpty | .isNotSetOrEmpty => isAbsentOrEmpty actual
  | .isEmpty => actual == some ""
  | .isNotEmpty => !isAbsentOrEmpty actual
  | .isAnyValue => true
  | .isNumber => actual.any Decimal.isNumber
  | .isInteger => actual.any Decimal.isInteger
  | .isFloat => actual.any Decimal.isFloat

/-! ## 2. Functions -/

/-- The moment a text gives with a date pattern. -/
def dateOf (pattern : String) (value : Option String) (rule : IsoRule := .every) :
    Except Fault (Option Calendar.Moment) :=
  (Calendar.readDate pattern value rule).mapError fun
    | .pattern f => .malformed (.badFormat f)
    | .repeatedPart f => .breakdown (.repeatedDatePart f)

def orMalformed {α : Type} (r : Except Cause α) : Except Fault α := r.mapError .malformed

/-- An argument that is a date in the given format. -/
def Expression.date (e : Expression) (place : Nat) (format parameter : String)
    (rule : IsoRule := .every) : Except Fault Calendar.Moment := do
  let t ← orMalformed (e.text place parameter)
  match ← dateOf format (some t) rule with
  | some m => return m
  | none => throw (.malformed (.badDate e.callName t place parameter format))

/-- The order of two moments. -/
def compareMoments (a b : Calendar.Moment) : Ordering := compare a.instant b.instant

/-- Whether the order of an actual number or date to its bound is what a function asks for. -/
def Function.wants (f : Function) (toBound : Ordering) : Bool :=
  match f with
  | .isGreaterThan | .isAfterDate => toBound == .gt
  | .isGreaterOrEqual => toBound != .lt
  | .isLessThan | .isBeforeDate => toBound == .lt
  | .isLessOrEqual => toBound != .gt
  | _ => false

/-- Whether the actual value is in time before or after a date. -/
def matchDateBound (f : Function) (e : Expression) (actual : Option String)
    (rule : IsoRule := .every) : Except Fault Bool := do
  let format ← orMalformed (e.text 1 "Format")
  let bound ← e.date 0 format "Date" rule
  match ← dateOf format actual rule with
  | none => return false
  | some m => return f.wants (compareMoments m bound)

def matchBetweenDates (e : Expression) (actual : Option String) (rule : IsoRule := .every) :
    Except Fault Bool := do
  let format ← orMalformed (e.text 2 "Format")
  let left ← e.date 0 format "Left date" rule
  let right ← e.date 1 format "Right date" rule
  let inclusion ← orMalformed (e.inclusion 3)
  match ← dateOf format actual rule with
  | none => return false
  | some m => return inclusion.contains (compareMoments m left) (compareMoments m right)

def matchNumberBound (f : Function) (e : Expression) (actual : Option String) :
    Except Cause Bool := do
  let bound ← e.decimal 0 "Expected value"
  match Decimal.readCell? actual with
  | none => return false
  | some v => return f.wants (v.compare bound)

def matchBetween (e : Expression) (actual : Option String) : Except Cause Bool := do
  let left ← e.decimal 0 "Left bound"
  let right ← e.decimal 1 "Right bound"
  let inclusion ← e.inclusion 2
  match Decimal.readCell? actual with
  | none => return false
  | some v => return inclusion.contains (v.compare left) (v.compare right)

/-- Whether the actual number agrees with the expected one, or does not when asked for that. -/
def matchNumber (f : Function) (e : Expression) (actual : Option String) : Except Cause Bool := do
  let expected ← e.decimal 0 "Expected value"
  let margin ← e.decimal? 1 "Error"
  let scale ← e.integer? 2 "Scale" (some Decimal.maxExponent)
  match Decimal.readCell? actual with
  | none => return false
  | some v =>
    let equal := Decimal.agree expected v scale margin (f == .asAbsNumber)
    return if f == .isNotEqualNumber then !equal else equal

/-- Whether the actual value differs from a quoted text. Case counts and surrounding blanks do not,
    unless the arguments say otherwise. -/
def matchNotEqualText (e : Expression) (actual : Option String) : Except Cause Bool := do
  let first := e.arguments.head?.getD ⟨"", false⟩
  if !first.quoted then throw (e.badArgument 0 first.text "Expected value")
  let caseSensitive ← e.boolean 1 "Case sensitive"
  let ignoreSpaces ← e.boolean 2 "Ignore spaces"
  let prepare (s : String) : String :=
    let s := if caseSensitive then s else lower s
    if ignoreSpaces then trim s else s
  match actual with
  | none => return true
  | some a => return prepare first.text != prepare a

/-- Whether the actual value is what a call with the right number of arguments asks for. -/
def matchCall (f : Function) (e : Expression) (actual : Option String)
    (rule : IsoRule := .every) : Except Fault Bool :=
  match f with
  | .isTimestamp => do
    let format ← orMalformed (e.text 0 "Format")
    return (← dateOf format actual rule).isSome
  | .isBeforeDate | .isAfterDate => matchDateBound f e actual rule
  | .isBetweenDates => matchBetweenDates e actual rule
  | .isGreaterThan | .isGreaterOrEqual | .isLessThan | .isLessOrEqual =>
    orMalformed (matchNumberBound f e actual)
  | .isBetween => orMalformed (matchBetween e actual)
  | .asNumber | .asAbsNumber | .isNotEqualNumber => orMalformed (matchNumber f e actual)
  | .isNotEqualText => orMalformed (matchNotEqualText e actual)

/-! ## 3. Values -/

/-- Whether the actual value is what an expression asks for. -/
def Expression.accepts (e : Expression) (actual : Option String) (caseSensitive : Bool)
    (rule : IsoRule := .every) : Except Fault Bool :=
  match e with
  | .literal expected => .ok (literalMatches expected actual caseSensitive)
  | .pattern raw => do return (← embeddedPattern raw).accepts (actual.getD "")
  | .sentinel s => .ok (s.accepts actual)
  | .call f arguments => do
    orMalformed (f.checkArity arguments.length)
    matchCall f e actual rule

/-- Whether the actual value is what is expected. -/
def accepts (expected actual : Option String) (caseSensitive : Bool := true)
    (rule : IsoRule := .every) : Except Fault Bool :=
  (Expression.ofCell expected).accepts actual caseSensitive rule

end Reconcile.Expectation
