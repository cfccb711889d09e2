import Reconcile.Decimal.Shapes
import Reconcile.Document.Entries
import Reconcile.Settings.Fault
import Reconcile.Text.Casing
import Reconcile.Text.Pieces

/-!
# Settings from parameters

An action passes its settings as texts by name. Lists are separated by commas, a numeric column may
give its precision behind a colon, and a column mapping puts an equals sign between the names. A
parameter that is absent or blank leaves its default.
-/

namespace Reconcile.Settings

open Reconcile.Text

/-! ## 1. Texts -/

/-- The items of a list that are not blank, without their surrounding blanks. -/
def readList (text : String) : List String :=
  ((pieces ',' text.toList).map fun item => String.ofList (trimChars item)).filter (· ≠ "")

/-- What stands before and behind the first of the given characters; nothing stands behind it when
    it is not there. -/
def cutAtFirst (separator : Char) (text : String) : String × Option String :=
  let cs := text.toList
  match cs.dropWhile (· != separator) with
  | [] => (text, none)
  | _ :: rest => (String.ofList (cs.takeWhile (· != separator)), some (String.ofList rest))

/-! ## 2. Numeric columns -/

/-- The precision of a numeric column: a finite number that is not negative. -/
def readPrecision (column text : String) : Except Fault Decimal :=
  match Decimal.readQuantity text with
  | none => .error (.unreadablePrecision column text)
  | some (.finite d) =>
    if d.negative && !d.isZero then .error (.badPrecision column text) else .ok d
  | some _ => .error (.badPrecision column text)

/-- A numeric column with its precision, which is zero when none is given. -/
def readNumericColumn (entry : String) : Except Fault (String × Decimal) := do
  let (column, precision) := cutAtFirst ':' entry
  let column := trim column
  let precision := trim (precision.getD "")
  if precision.isEmpty then return (column, Decimal.zero)
  else return (column, ← readPrecision column precision)

/-- Numeric columns; of several entries for one column the last counts. -/
def readNumericColumns (entries : List String) : Except Fault (List (String × Decimal)) :=
  return Entries.ofList (← entries.mapM readNumericColumn)

/-! ## 3. Further parameters -/

/-- An entry of a column mapping. -/
def readMappingEntry (entry : String) : Except Fault (String × String) :=
  match cutAtFirst '=' entry with
  | (_, none) => .error (.badMapping entry)
  | (expected, some actual) =>
    let e := trim expected
    let a := trim actual
    if e.isEmpty || a.isEmpty then .error (.badMapping entry) else .ok (e, a)

def readMapping (text : String) : Except Fault (List (String × String)) :=
  return Entries.ofList (← (readList text).mapM readMappingEntry)

def trueWords : List String := ["true", "yes", "y", "1"]

def falseWords : List String := ["false", "no", "n", "0"]

/-- A truth value; a blank one leaves its default. -/
def readFlag (name : String) (default : Bool) : Option String → Except Fault Bool
  | none => .ok default
  | some value =>
    let word := lower (trim value)
    if word.isEmpty then .ok default
    else if trueWords.contains word then .ok true
    else if falseWords.contains word then .ok false
    else .error (.badFlag name value)

/-- A policy for surplus data; a blank one leaves the default. -/
def readPolicy (value : String) : Except Fault (Option ExtraPolicy) :=
  let word := trim value
  if word.isEmpty then .ok none
  else match ExtraPolicy.ofName? (lower word) with
    | some p => .ok (some p)
    | none => .error (.badPolicy value)

/-- A limit of rows: -1 for none, otherwise not negative. -/
def readCap (name : String) : Option String → Except Fault Int
  | none => .ok unlimited
  | some value =>
    if (trim value).isEmpty then .ok unlimited
    else match Decimal.readLooseInteger? value with
      | none => .error (.badCap name value)
      | some n => if n < unlimited then .error (.capTooSmall name n) else .ok n

/-! ## 4. All parameters -/

/-- The settings that parameters ask for. -/
def ofParameters (parameters : List (String × String)) : Except Fault Settings := do
  let get (name : String) : Option String := parameters.lookup name
  let list (name : String) : List String := readList ((get name).getD "")
  let numericColumns ← readNumericColumns (list "NumericColumns")
  let columnMapping ← readMapping ((get "ColumnMapping").getD "")
  let caseSensitive ← readFlag "CaseSensitive" true (get "CaseSensitive")
  let checkDuplicates ← readFlag "CheckDuplicates" false (get "CheckDuplicates")
  let extraPolicy ← readPolicy ((get "ExtraPolicy").getD "")
  let cap (section' : String) : Except Fault Int :=
    let name := "Max" ++ section' ++ "RowsInReport"
    readCap name (get name)
  let passed ← cap "Passed"
  let failed ← cap "Failed"
  let notFound ← cap "NotFound"
  let extra ← cap "Extra"
  return {
    keyColumns := list "KeyColumns", numericColumns, columnMapping
    ignoreColumns := list "IgnoreColumns", infoColumns := list "InfoColumns"
    caseSensitive, checkDuplicates, extraPolicy, serviceFields := list "ServiceFields"
    caps := { passed, failed, notFound, extra } }

end Reconcile.Settings
