import Reconcile.Document.Value
import Reconcile.Text.Base64
import Reconcile.Text.Casing
import Reconcile.Yaml.Fault
import Reconcile.Yaml.Tag

/-!
# Values of scalars

What the text of a scalar stands for, given its tag. A plain scalar has a tag that its text looks
like, which still does not mean that there is a value: the thirtieth of February looks like a date.
A scalar with a tag of its own may look like anything.
-/

namespace Reconcile.Yaml

open Reconcile.Document Reconcile.Text Reconcile.Calendar

/-! ## 1. Integers -/

/-- The most decimal digits that an integer may have. -/
def maxIntegerDigits : Nat := 4300

/-- The value of a digit in bases up to sixteen. -/
def digitIn? (base : Nat) (c : Char) : Option Nat :=
  let value :=
    if 'a' ≤ c && c ≤ 'f' then some (c.toNat - 87)
    else if 'A' ≤ c && c ≤ 'F' then some (c.toNat - 55)
    else digitValue? c
  value.filter (· < base)

/-- The letters that may stand behind a zero to announce a base. -/
def baseLetters : Nat → List Char
  | 2 => ['b', 'B']
  | 8 => ['o', 'O']
  | 16 => ['x', 'X']
  | _ => []

/-- The digits without an announcement of their base. -/
def dropBase (base : Nat) : List Char → List Char
  | '0' :: c :: rest => if (baseLetters base).contains c then rest else '0' :: c :: rest
  | s => s

/-- The integer that is written in a base; blanks around it, a sign and an announcement of the base
    are allowed. -/
def integerIn (base : Nat) (s : List Char) : Except ScalarFault Int :=
  let (minus, body) := Decimal.takeSign (trimChars s)
  let ds := dropBase base body
  match ds.mapM (digitIn? base) with
  | none | some [] => .error (.notAnInteger (String.ofList s) base)
  | some vs =>
    if base == 10 && ds.length > maxIntegerDigits then .error (.tooManyDigits ds.length)
    else
      let n := vs.foldl (fun n v => base * n + v) 0
      .ok (if minus then -n else n)

/-- The integer without its sign: a zero announces another base, and colons separate sixtieths. -/
def unsignedInteger (s : List Char) : Except ScalarFault Int :=
  match s with
  | [] => .error .emptyNumber
  | ['0'] => .ok 0
  | '0' :: 'b' :: ds => integerIn 2 ds
  | '0' :: 'x' :: ds => integerIn 16 ds
  | '0' :: _ => integerIn 8 s
  | _ =>
    if s.contains ':' then do
      return ((← (pieces ':' s).mapM (integerIn 10)).foldl (fun n d => 60 * n + d) 0)
    else integerIn 10 s

/-- Whether a number begins with a minus, and what follows its sign. A number has at least one
    character. -/
def numberBody (s : List Char) : Except ScalarFault (Bool × List Char) :=
  match s.filter (· ≠ '_') with
  | [] => .error .emptyNumber
  | cs => .ok (Decimal.takeSign cs)

/-- The integer that a text is. -/
def integerOf (text : String) : Except ScalarFault Int := do
  let (minus, body) ← numberBody text.toList
  let n ← unsignedInteger body
  return if minus then -n else n

/-! ## 2. Binary numbers -/

def infinity : Float := 1.0 / 0.0

/-- The words for numbers that no digits write. -/
def numberWords : List (String × Float) :=
  [("inf", infinity), ("infinity", infinity), ("nan", 0.0 / 0.0)]

/-- The number that is written in digits or as a word; blanks around it and a sign are allowed. -/
def plainFloat (s : List Char) : Except ScalarFault Float :=
  let (minus, body) := Decimal.takeSign (trimChars s)
  match numberWords.lookup (String.ofList body), Decimal.readLoose minus body with
  | some x, _ => .ok (if minus then -x else x)
  | none, some d => .ok d.toBinary
  | none, none => .error (.notAFloat (String.ofList s))

/-- The sum of pieces, the last of which counts once and every other one sixty times as often as
    the one behind it. -/
def sumSixtieths (pieces : List Float) : Float :=
  (pieces.reverse.foldl (fun (sum, weight) x => (sum + x * Float.ofNat weight, weight * 60))
    ((0.0 : Float), 1)).1

/-- The number without its sign. -/
def unsignedFloat (s : List Char) : Except ScalarFault Float :=
  if s == ".inf".toList then .ok infinity
  else if s == ".nan".toList then .ok (0.0 / 0.0)
  else if s.contains ':' then sumSixtieths <$> (pieces ':' s).mapM plainFloat
  else plainFloat s

/-- The binary number that a text is. -/
def floatOf (text : String) : Except ScalarFault Float := do
  let (minus, body) ← numberBody (lower text).toList
  let x ← unsignedFloat body
  return if minus then -x else x

/-! ## 3. Dates -/

/-- The digits of a fraction as millionths; what is smaller is cut off. -/
def millionths (ds : List Char) : Nat :=
  let six := ds.take 6
  digitsValue six * Nat.pow 10 (6 - six.length)

/-- The distance from universal time in microseconds; it is less than a day. -/
def zoneOf : Bool × Nat × Nat → Except ScalarFault Int
  | (behind, hours, minutes) =>
    let n : Int := (hours * 60 + minutes : Nat) * 60000000
    let z := if behind then -n else n
    if z.natAbs < 86400000000 then .ok z
    else .error (.zoneOutOfRange (Value.shownDistance z))

/-- The day with the given parts. -/
def dayOf (s : Stamp) : Except ScalarFault Day :=
  if s.year == 0 then .error (.yearOutOfRange s.year)
  else if s.month == 0 || s.month > 12 then .error .monthOutOfRange
  else if s.day == 0 || s.day > monthLength s.year s.month then .error .dayOutOfRange
  else .ok ⟨s.year, s.month, s.day⟩

/-- The day or the moment with the given parts. The zone is looked at first, then the day and then
    the time. -/
def stampValue (s : Stamp) : Except ScalarFault Value :=
  match s.time with
  | none => .day <$> dayOf s
  | some (hour, minute, second, fraction) => do
    let zone ← s.zone.mapM zoneOf
    let day ← dayOf s
    if hour > 23 then throw .hourOutOfRange
    if minute > 59 then throw .minuteOutOfRange
    if second > 59 then throw .secondOutOfRange
    return .instant ⟨day, hour, minute, second, millionths fraction, zone⟩

/-! ## 4. All scalars -/

def trueWords : List String := ["yes", "true", "on"]

def falseWords : List String := ["no", "false", "off"]

/-- The truth value that a text is, regardless of case. -/
def truthOf (text : String) : Except ScalarFault Bool :=
  let word := lower text
  if trueWords.contains word then .ok true
  else if falseWords.contains word then .ok false
  else .error (.notATruthValue word)

/-- The value of a scalar with the given tag. -/
def scalarValue (tag : Tag) (text : String) : Except Fault Value :=
  match tag with
  | .null => .ok .null
  | .str => .ok (.text text)
  | .bool => (.bool <$> truthOf text).mapError .scalar
  | .int => (.int <$> integerOf text).mapError .scalar
  | .float => (.float <$> floatOf text).mapError .scalar
  | .timestamp => match readStamp text.toList with
    | some s => (stampValue s).mapError .scalar
    | none => .error (.scalar .notATimestamp)
  | .binary =>
    if text.toList.all (·.toNat < 128) then match readBase64 [] 0 text.toList with
      | some bytes => .ok (.bytes bytes)
      | none => .error (.malformed .badBytes)
    else .error (.malformed .badBytes)
  | .seq | .map | .set | .omap | .pairs => .error (.malformed .wrongKind)
  | .merge | .value | .unknown => .error (.malformed .unknownTag)

end Reconcile.Yaml
