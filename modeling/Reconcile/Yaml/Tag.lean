import Reconcile.Text.DecimalDigit
import Reconcile.Text.Pieces
import Reconcile.Decimal.Shapes

/-!
# Tags

The kind of a node. A plain scalar without a tag gets one by what it looks like: nothing, a truth
value, a number, a date, the sign for merging or for a default value, and otherwise a text.
-/

namespace Reconcile.Yaml

open Reconcile.Text

/-- The kinds of nodes. -/
inductive Tag where
  | null
  | bool
  | int
  | float
  | timestamp
  | merge
  | value
  | binary
  | str
  | seq
  | map
  | set
  | omap
  | pairs
  | unknown
  deriving DecidableEq, Repr

/-- What the names of the known tags begin with. -/
def tagSpace : String := "tag:yaml.org,2002:"

/-- The tag with a name. -/
def Tag.ofName (name : String) : Tag :=
  let known : List (String × Tag) := [
    ("null", .null), ("bool", .bool), ("int", .int), ("float", .float),
    ("timestamp", .timestamp), ("binary", .binary), ("str", .str), ("seq", .seq), ("map", .map),
    ("set", .set), ("omap", .omap), ("pairs", .pairs), ("merge", .merge), ("value", .value)]
  (known.find? fun e => tagSpace ++ e.1 == name).elim .unknown (·.2)

/-! ## 1. Words -/

def nullWords : List String := ["", "~", "null", "Null", "NULL"]

def truthWords : List String := [
  "yes", "Yes", "YES", "no", "No", "NO", "true", "True", "TRUE", "false", "False", "FALSE", "on",
  "On", "ON", "off", "Off", "OFF"]

/-! ## 2. Numbers -/

def dropSign : List Char → List Char
  | '+' :: rest | '-' :: rest => rest
  | s => s

def isDigitOrLow (c : Char) : Bool := isPlainDigit c || c == '_'

/-- Whether a piece is a number below sixty with one or two digits. -/
def isSixtieth : List Char → Bool
  | [a] => isPlainDigit a
  | [a, b] => '0' ≤ a && a ≤ '5' && isPlainDigit b
  | _ => false

/-- Whether a text is a colon and sixtieths with colons between them. -/
def isSixtieths : List Char → Bool
  | ':' :: rest => (pieces ':' rest).all isSixtieth
  | _ => false

/-- Whether a text is written as an integer: binary, octal, decimal, hexadecimal, or in sixtieths. -/
def looksInteger (s : List Char) : Bool :=
  match dropSign s with
  | '0' :: 'b' :: ds => !ds.isEmpty && ds.all fun c => c == '0' || c == '1' || c == '_'
  | '0' :: 'x' :: ds => !ds.isEmpty && ds.all fun c => Decimal.isHexDigit c || c == '_'
  | '0' :: ds => ds.all fun c => ('0' ≤ c && c ≤ '7') || c == '_'
  | c :: ds =>
    '1' ≤ c && c ≤ '9' &&
      (let rest := ds.dropWhile isDigitOrLow
       rest.isEmpty || isSixtieths rest)
  | [] => false

/-- Whether a text is empty or an exponent with a sign. -/
def isSignedExponent : List Char → Bool
  | [] => true
  | e :: sign :: ds =>
    (e == 'e' || e == 'E') && (sign == '+' || sign == '-') && !ds.isEmpty && ds.all isPlainDigit
  | _ => false

/-- Whether a text is written as a number with a point, or as infinity or no number. -/
def looksFloat (s : List Char) : Bool :=
  let body := dropSign s
  let startsWithDigit := body.head?.any isPlainDigit
  let whole := body.takeWhile isDigitOrLow
  let rest := body.drop whole.length
  let decimal := startsWithDigit && (match rest with
    | '.' :: tail => isSignedExponent (tail.dropWhile isDigitOrLow)
    | _ => false)
  let pointFirst := match s with
    | '.' :: c :: tail => isPlainDigit c && isSignedExponent (tail.dropWhile isDigitOrLow)
    | _ => false
  let sixtieths := startsWithDigit &&
    isSixtieths (rest.takeWhile (· != '.')) && (match rest.dropWhile (· != '.') with
      | '.' :: tail => tail.all isDigitOrLow
      | _ => false)
  let infinite := [".inf", ".Inf", ".INF"].contains (String.ofList body)
  let noNumber := [".nan", ".NaN", ".NAN"].contains (String.ofList s)
  decimal || pointFirst || sixtieths || infinite || noNumber

/-! ## 3. Dates -/

/-- The parts of a date with an optional time: the digits of the fraction as they stand, and the
    zone as a sign with hours and minutes. -/
structure Stamp where
  year : Nat
  month : Nat
  day : Nat
  /-- hour, minute, second, and the digits behind the point -/
  time : Option (Nat × Nat × Nat × List Char) := none
  /-- whether a zone is behind universal time, and its hours and minutes -/
  zone : Option (Bool × Nat × Nat) := none
  deriving Repr

def digitsValue (ds : List Char) : Nat := Decimal.ofDigits (ds.map fun d => d.toNat - 48)

/-- Takes digits, at least and at most so many. -/
def takeDigits (least most : Nat) (s : List Char) : Option (Nat × List Char) :=
  let ds := (s.take most).takeWhile isPlainDigit
  if ds.length < least then none else some (digitsValue ds, s.drop ds.length)

def takeChar (c : Char) : List Char → Option (List Char)
  | d :: rest => if c == d then some rest else none
  | [] => none

/-- The zone that a text is, blanks before it aside. -/
def readZone (s : List Char) : Option (Option (Bool × Nat × Nat)) :=
  if s.isEmpty then some none
  else match s.dropWhile fun c => c == ' ' || c == '\t' with
    | ['Z'] => some (some (false, 0, 0))
    | sign :: rest => do
      if sign != '+' && sign != '-' then none
      let (hours, rest) ← takeDigits 1 2 rest
      if rest.isEmpty then return some (sign == '-', hours, 0)
      let (minutes, rest) ← takeDigits 2 2 (← takeChar ':' rest)
      if rest.isEmpty then return some (sign == '-', hours, minutes) else none
    | [] => none

/-- The time of a day that a text is, and what stands behind it. -/
def readTime (s : List Char) : Option ((Nat × Nat × Nat × List Char) × List Char) := do
  let (hour, rest) ← takeDigits 1 2 s
  let (minute, rest) ← takeDigits 2 2 (← takeChar ':' rest)
  let (second, rest) ← takeDigits 2 2 (← takeChar ':' rest)
  match rest with
  | '.' :: rest =>
    return ((hour, minute, second, rest.takeWhile isPlainDigit), rest.dropWhile isPlainDigit)
  | _ => return ((hour, minute, second, []), rest)

/-- What stands between a day and a time: a letter or blanks. -/
def dropTimeSign : List Char → Option (List Char)
  | c :: rest =>
    if c == 'T' || c == 't' then some rest
    else if c == ' ' || c == '\t' then some (rest.dropWhile fun c => c == ' ' || c == '\t')
    else none
  | [] => none

/-- The parts of the date that a text is. -/
def readStamp (s : List Char) : Option Stamp := do
  let (year, rest) ← takeDigits 4 4 s
  let (month, rest) ← takeDigits 1 2 (← takeChar '-' rest)
  let (day, rest) ← takeDigits 1 2 (← takeChar '-' rest)
  if rest.isEmpty then return { year, month, day }
  let (time, rest) ← readTime (← dropTimeSign rest)
  return { year, month, day, time := some time, zone := ← readZone rest }

/-- Whether a text is written as a date; a date alone has all its ten characters. -/
def looksTimestamp (s : List Char) : Bool :=
  (readStamp s).any fun p => p.time.isSome || s.length == 10

/-! ## 4. Plain scalars -/

/-- The tag that a plain scalar gets by its text. -/
def Tag.ofPlain (text : String) : Tag :=
  let cs := text.toList
  if truthWords.contains text then .bool
  else if looksFloat cs then .float
  else if looksInteger cs then .int
  else if text == "<<" then .merge
  else if nullWords.contains text then .null
  else if looksTimestamp cs then .timestamp
  else if text == "=" then .value
  else .str

end Reconcile.Yaml
