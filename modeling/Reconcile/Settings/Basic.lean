import Reconcile.Decimal.Basic

/-!
# Settings

What one comparison is configured with: the columns that identify rows, the columns that are
compared as numbers, the names that columns have on the actual side, the columns that are skipped
or only reported, what becomes of surplus data, and how many rows a report may hold.
-/

namespace Reconcile

/-- What becomes of actual data without an expected counterpart. -/
inductive ExtraPolicy where
  | ignore
  | info
  | fail
  deriving DecidableEq, Repr

namespace ExtraPolicy

def all : List ExtraPolicy := [.ignore, .info, .fail]

def name : ExtraPolicy → String
  | .ignore => "ignore"
  | .info => "info"
  | .fail => "fail"

def ofName? (s : String) : Option ExtraPolicy := all.find? (·.name == s)

end ExtraPolicy

/-- The number that stands for no limit. -/
def unlimited : Int := -1

/-- How many rows each section of a report may hold. -/
structure Caps where
  passed : Int := unlimited
  failed : Int := unlimited
  notFound : Int := unlimited
  extra : Int := unlimited
  deriving DecidableEq, Repr

/-- The configuration of one comparison. -/
structure Settings where
  keyColumns : List String := []
  /-- the precision of each numeric column -/
  numericColumns : List (String × Decimal) := []
  /-- the actual name of each column that is called otherwise on the expected side -/
  columnMapping : List (String × String) := []
  ignoreColumns : List String := []
  infoColumns : List String := []
  caseSensitive : Bool := true
  checkDuplicates : Bool := false
  extraPolicy : Option ExtraPolicy := none
  groupKeyFields : List (String × List String) := []
  serviceFields : List String := []
  caps : Caps := {}
  deriving DecidableEq, Repr

namespace Settings

/-- Whether rows are paired by key. -/
def isKeyed (s : Settings) : Bool := !s.keyColumns.isEmpty

/-- Surplus rows are failures unless configured otherwise. -/
def tableExtraPolicy (s : Settings) : ExtraPolicy := s.extraPolicy.getD .fail

/-- Surplus groups of a message are ignored unless configured otherwise. -/
def messageExtraPolicy (s : Settings) : ExtraPolicy := s.extraPolicy.getD .ignore

/-- The name of an expected column on the actual side. -/
def actualColumn (s : Settings) (column : String) : String :=
  (s.columnMapping.lookup column).getD column

/-- The precision of a numeric column. -/
def precision? (s : Settings) (column : String) : Option Decimal := s.numericColumns.lookup column

end Settings

end Reconcile
