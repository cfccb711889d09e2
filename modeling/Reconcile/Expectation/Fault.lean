import Reconcile.Calendar.Reader
import Reconcile.Expectation.Inclusion
import Reconcile.Pattern.Fault

/-!
# Faults of expectations

An expectation can be malformed: its arguments are missing, too many or of the wrong form, or its
pattern or date format cannot be read. Such a fault is reported beside the field it belongs to. A
few texts break the evaluation off instead: a date format that asks for a part twice, and patterns
beyond the limits of what can be read.
-/

namespace Reconcile.Expectation

/-- Why an expectation is malformed. Places of arguments count from 0. -/
inductive Cause where
  | missingArguments (call : String)
  | wrongCount (call : String) (least most : Nat)
  | badArgument (call value : String) (place : Nat) (parameter : String)
  | badDate (call value : String) (place : Nat) (parameter format : String)
  | badInclusion (call value : String)
  | badPattern (expected : String) (pattern : List Char) (fault : Pattern.Fault)
  | badFormat (fault : Calendar.PatternFault)
  deriving DecidableEq, Repr

/-- What an argument that is not valid is said to be. -/
def notValid (call value : String) (place : Nat) (parameter : String) : String :=
  s!"In function '{call}' value '{value}' not valid for param[{place + 1}] - '{parameter}'"

def Cause.message : Cause → String
  | .missingArguments call => s!"Parameters in function '{call}' are missing."
  | .wrongCount call least most =>
    s!"Wrong number of parameters in function '{call}', min = {least}, max = {most}."
  | .badArgument call value place parameter => notValid call value place parameter ++ "."
  | .badDate call value place parameter format =>
    notValid call value place parameter ++ s!": doesn't match format '{format}'."
  | .badInclusion call value =>
    let allowed := ", ".intercalate (Inclusion.all.map Inclusion.name)
    s!"In function '{call}' inclusion '{value}' is invalid, expected one of: {allowed}."
  | .badPattern expected pattern fault =>
    s!"Invalid pattern in expected value '{expected}': " ++ fault.message pattern
  | .badFormat fault => fault.message

/-- What breaks an evaluation off. -/
inductive Breakdown where
  | repeatedDatePart (fault : Pattern.Fault)
  | patternLimit (fault : Pattern.Fault)
  deriving DecidableEq, Repr

/-- The kind of a breakdown as logs name it. -/
def Breakdown.kindName : Breakdown → String
  | .repeatedDatePart _ => "error"
  | .patternLimit .countTooLarge => "OverflowError"
  | .patternLimit .wideLookBehind => "RuntimeError"
  | .patternLimit _ => "ValueError"

def Breakdown.message : Breakdown → String
  | .repeatedDatePart f | .patternLimit f => f.message []

/-- Why an expectation cannot be evaluated. -/
inductive Fault where
  | malformed (cause : Cause)
  | breakdown (b : Breakdown)
  deriving DecidableEq, Repr

end Reconcile.Expectation
