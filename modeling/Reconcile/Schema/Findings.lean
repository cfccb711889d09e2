import Reconcile.Pattern.Fault
import Reconcile.Schema.Failure

/-!
# Findings

A check goes through the rules one by one. What it finds are failures, each with its message, until
it is at the end or breaks off. A value is not accepted as soon as there is a first failure; whoever
asks for all failures, or for the most relevant one, learns that the check broke off.
-/

namespace Reconcile.Schema

open Reconcile.Document

/-- What breaks a check off. -/
inductive Breakdown where
  /-- a message about a number with too many digits -/
  | longNumber
  /-- a multiple of no number, or a number that is none -/
  | notANumber
  /-- a number that no binary number comes near to -/
  | tooLarge
  /-- a pattern to be found in a key that is no text -/
  | keyNoText
  /-- keys or failures that have no order -/
  | unordered
  /-- a reference that leads nowhere -/
  | unresolved (reference : String)
  /-- references or comparisons that lead on and on -/
  | endless
  /-- a pattern that is beyond the limits -/
  | patternLimit (f : Pattern.Fault)
  deriving DecidableEq, Repr

/-- What a check has found: failures, and that it broke off behind them if it did. -/
structure Findings where
  failures : List Failure := []
  brokenBy : Option Breakdown := none

namespace Findings

/-! ## 1. Findings put together -/

def brokenOff (b : Breakdown) : Findings := { brokenBy := some b }

def ofExcept : Except Breakdown Findings → Findings
  | .ok found => found
  | .error b => brokenOff b

/-- A failure, when its message can be made. -/
def ofFailure (f : Failure) : Findings :=
  if f.isShowable then { failures := [f] } else brokenOff .longNumber

/-- What two checks find, the second of which comes behind the first. -/
def andThen (a b : Findings) : Findings :=
  match a.brokenBy with
  | some _ => a
  | none => { failures := a.failures ++ b.failures, brokenBy := b.brokenBy }

instance : Append Findings := ⟨andThen⟩

/-- What the checks of some things find, one after the other. -/
def ofEach {α : Type} (check : α → Findings) : List α → Findings
  | [] => {}
  | x :: rest => check x ++ ofEach check rest

/-- The findings as those of the value that has this one behind the given step. -/
def behind (step : Value) (found : Findings) : Findings :=
  { found with failures := found.failures.map (·.behind step) }

/-! ## 2. What is asked of findings -/

/-- The first failure, if there is one. -/
def first (found : Findings) : Except Breakdown (Option Failure) :=
  match found.failures, found.brokenBy with
  | f :: _, _ => .ok (some f)
  | [], some b => .error b
  | [], none => .ok none

/-- Whether there is no failure. -/
def accepts (found : Findings) : Except Breakdown Bool := Option.isNone <$> found.first

/-- All failures. -/
def all (found : Findings) : Except Breakdown (List Failure) :=
  match found.brokenBy with
  | some b => .error b
  | none => .ok found.failures

def orUnordered {α : Type} : Option α → Except Breakdown α
  | some a => .ok a
  | none => .error .unordered

/-- The failure to be told, if there is one. Failures are compared while they are found. -/
def told (found : Findings) : Except Breakdown (Option Failure) :=
  match found.failures with
  | [] => (fun _ => none) <$> found.all
  | f :: rest => do
    let best ← orUnordered (Failure.mostRelevant? f rest)
    let _ ← found.all
    some <$> orUnordered (Failure.narrowed? best)

end Findings

end Reconcile.Schema
