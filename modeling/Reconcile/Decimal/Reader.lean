import Reconcile.Decimal.Basic
import Reconcile.Text.Blank
import Reconcile.Text.DecimalDigit

/-!
# Reading decimals

Two readers. A cell or an argument is a number only when all of it is a plain decimal number of
moderate size: an optional sign, digits with an optional fraction, an optional exponent, and no
blank, no type letter, no digit separator. The precision of a numeric column comes from a person
and is read more kindly: surrounding blanks and low lines are ignored, and the words for infinity
and for "not a number" are understood, so that they can be refused by name.
-/

namespace Reconcile.Decimal

open Reconcile.Text

/-! ## 1. Digits -/

/-- The number written by a list of digit values, most significant first. -/
def ofDigits (ds : List Nat) : Nat := ds.foldl (fun n d => 10 * n + d) 0

/-- The longest run of decimal digits at the front, as values, and what follows it. -/
def spanDigits : List Char → List Nat × List Char
  | [] => ([], [])
  | c :: rest => match digitValue? c with
    | some v => let (vs, tail) := spanDigits rest; (v :: vs, tail)
    | none => ([], c :: rest)

/-- An optional sign: whether it is a minus, and what follows it. -/
def takeSign : List Char → Bool × List Char
  | '+' :: rest => (false, rest)
  | '-' :: rest => (true, rest)
  | s => (false, s)

/-- The value of an exponent part, `e` or `E` with an optional sign and digits. Nothing at all is
    the exponent zero; anything else is no exponent. -/
def readExponent : List Char → Option Int
  | [] => some 0
  | c :: rest =>
    if c == 'e' || c == 'E' then
      let (minus, body) := takeSign rest
      match spanDigits body with
      | ([], _) => none
      | (ds, []) => some (if minus then -(ofDigits ds : Int) else ofDigits ds)
      | _ => none
    else none

/-! ## 2. Plain numbers -/

/-- A decimal from its sign, the digits before and behind the point and the exponent part. -/
def assemble (minus : Bool) (whole fraction : List Nat) (tail : List Char) : Option Decimal :=
  (readExponent tail).map fun e => ⟨minus, ofDigits (whole ++ fraction), e - fraction.length⟩

/-- Reads a plain decimal number: digits stand before the point or behind it, and a point that
    follows digits needs digits behind it as well. -/
def readPlain (s : List Char) : Option Decimal :=
  let (minus, body) := takeSign s
  match spanDigits body with
  | (whole, '.' :: rest) => match spanDigits rest with
    | ([], _) => none
    | (fraction, tail) => assemble minus whole fraction tail
  | ([], _) => none
  | (whole, tail) => assemble minus whole [] tail

/-- Whether the text is a plain decimal number. -/
def isPlain (s : String) : Bool := (readPlain s.toList).isSome

/-- The largest leading exponent, in size, of a number that is accepted. -/
def maxExponent : Nat := 1000

/-- The plain decimal number that the text is, unless its leading exponent is beyond the limit. -/
def read? (s : String) : Option Decimal :=
  match readPlain s.toList with
  | some d => if d.adjusted.natAbs ≤ maxExponent then some d else none
  | none => none

/-- The number a cell holds; an absent cell holds none. -/
def readCell? (cell : Option String) : Option Decimal := cell.bind read?

/-! ## 3. Numbers as people write them -/

/-- What a person may write for a number. -/
inductive Quantity where
  | finite (d : Decimal)
  | infinite (negative : Bool)
  | notANumber
  deriving DecidableEq, Repr

/-- The largest leading exponent a quantity can have. -/
def quantityLimit : Int := 999999999999999999

/-- Whether a quantity of this size can be held: the leading exponent has an upper limit and the
    exponent a lower one; a zero has both for its exponent. -/
def isHeld (d : Decimal) : Bool :=
  -(2 * quantityLimit - 1) ≤ d.exponent &&
    (if d.isZero then d.exponent else d.adjusted) ≤ quantityLimit

/-- ASCII letters in lower case. -/
def plainLower (s : List Char) : List Char := s.map Char.toLower

/-- Reads a number with an optional point anywhere among the digits. -/
def readLoose (minus : Bool) (body : List Char) : Option Decimal :=
  let (whole, rest) := spanDigits body
  let (fraction, tail) := match rest with
    | '.' :: more => spanDigits more
    | _ => ([], rest)
  if whole.isEmpty && fraction.isEmpty then none else assemble minus whole fraction tail

/-- Reads a quantity: blanks around it and low lines in it are ignored, case is ignored in the
    words for infinity and for "not a number". -/
def readQuantity (s : String) : Option Quantity :=
  let (minus, body) := takeSign ((trimChars s.toList).filter (· ≠ '_'))
  let word := plainLower body
  if word == "inf".toList || word == "infinity".toList then some (.infinite minus)
  else
    let payload := if word.take 1 == ['s'] then word.drop 1 else word
    if payload.take 3 == "nan".toList && (spanDigits (payload.drop 3)).2.isEmpty then
      some .notANumber
    else match readLoose minus body with
      | some d => if isHeld d then some (.finite d) else none
      | none => none

end Reconcile.Decimal
