/-!
# Functions and sentinels

The vocabulary of expectations: the functions that take arguments, each with the number of
arguments it takes, and the fixed words that need none.
-/

namespace Reconcile.Expectation

/-! ## 1. Functions -/

/-- A function that an expectation can call. -/
inductive Function where
  | isTimestamp
  | isBeforeDate
  | isAfterDate
  | isBetweenDates
  | isGreaterThan
  | isGreaterOrEqual
  | isLessThan
  | isLessOrEqual
  | isBetween
  | asNumber
  | asAbsNumber
  | isNotEqualNumber
  | isNotEqualText
  deriving DecidableEq, Repr

namespace Function

def all : List Function := [
  .isTimestamp, .isBeforeDate, .isAfterDate, .isBetweenDates, .isGreaterThan, .isGreaterOrEqual,
  .isLessThan, .isLessOrEqual, .isBetween, .asNumber, .asAbsNumber, .isNotEqualNumber,
  .isNotEqualText]

/-- The name by which a function is called. -/
def name : Function → String
  | .isTimestamp => "isTimestamp"
  | .isBeforeDate => "isBeforeDate"
  | .isAfterDate => "isAfterDate"
  | .isBetweenDates => "isBetweenDates"
  | .isGreaterThan => "isGreaterThan"
  | .isGreaterOrEqual => "isGreaterOrEqual"
  | .isLessThan => "isLessThan"
  | .isLessOrEqual => "isLessOrEqual"
  | .isBetween => "isBetween"
  | .asNumber => "asNumber"
  | .asAbsNumber => "asAbsNumber"
  | .isNotEqualNumber => "isNotEqualNumber"
  | .isNotEqualText => "isNotEqualText"

/-- The function with a name. -/
def ofName? (s : String) : Option Function := all.find? (·.name == s)

/-- The least and the greatest number of arguments. -/
def arity : Function → Nat × Nat
  | .isTimestamp | .isGreaterThan | .isGreaterOrEqual | .isLessThan | .isLessOrEqual => (1, 1)
  | .isBeforeDate | .isAfterDate => (2, 2)
  | .isBetween => (2, 3)
  | .isBetweenDates => (3, 4)
  | .asNumber | .asAbsNumber | .isNotEqualNumber | .isNotEqualText => (1, 3)

end Function

/-! ## 2. Sentinels -/

/-- What a fixed word asks of the actual value. -/
inductive Sentinel where
  | isNull
  | isNotPresent
  | isNotSet
  | isNotNull
  | isPresent
  | isSet
  | isEmpty
  | isNotEmpty
  | isNullOrEmpty
  | isNotPresentOrEmpty
  | isNotSetOrEmpty
  | isAnyValue
  | isNumber
  | isInteger
  | isFloat
  deriving DecidableEq, Repr

namespace Sentinel

def all : List Sentinel := [
  .isNull, .isNotPresent, .isNotSet, .isNotNull, .isPresent, .isSet, .isEmpty, .isNotEmpty,
  .isNullOrEmpty, .isNotPresentOrEmpty, .isNotSetOrEmpty, .isAnyValue, .isNumber, .isInteger,
  .isFloat]

def name : Sentinel → String
  | .isNull => "isNull"
  | .isNotPresent => "isNotPresent"
  | .isNotSet => "isNotSet"
  | .isNotNull => "isNotNull"
  | .isPresent => "isPresent"
  | .isSet => "isSet"
  | .isEmpty => "isEmpty"
  | .isNotEmpty => "isNotEmpty"
  | .isNullOrEmpty => "isNullOrEmpty"
  | .isNotPresentOrEmpty => "isNotPresentOrEmpty"
  | .isNotSetOrEmpty => "isNotSetOrEmpty"
  | .isAnyValue => "isAnyValue"
  | .isNumber => "isNumber"
  | .isInteger => "isInteger"
  | .isFloat => "isFloat"

/-- The word as it is written in a table. -/
def token (s : Sentinel) : String := "@\x7b" ++ s.name ++ "\x7d"

/-- The sentinel a text is. -/
def ofToken? (t : String) : Option Sentinel := all.find? (·.token == t)

end Sentinel

end Reconcile.Expectation
