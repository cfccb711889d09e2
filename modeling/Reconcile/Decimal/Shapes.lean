import Reconcile.Decimal.Reader

/-!
# Shapes of numbers

What the expectations "is a number", "is an integer" and "is a float" accept. A number may have
a comma for the point, a point without digits behind it, an exponent and a type letter, or be
hexadecimal; an integer is digits with an optional sign; a float has digits on both sides of a
point or comma.
-/

namespace Reconcile.Decimal

open Reconcile.Text

def isPoint (c : Char) : Bool := c == '.' || c == ','

/-- Whether only a type letter is left, or nothing. -/
def endsWithType : List Char → Bool
  | [] => true
  | [c] => "fFdDlL".toList.contains c
  | _ => false

/-- Whether what is left is an optional exponent and an optional type letter. -/
def endsNumber : List Char → Bool
  | c :: rest =>
    if c == 'e' || c == 'E' then
      match spanDigits (takeSign rest).2 with
      | ([], _) => false
      | (_, tail) => endsWithType tail
    else endsWithType (c :: rest)
  | [] => true

/-- Whether an unsigned text is a decimal number in the wide sense. -/
def isWideDecimal (s : List Char) : Bool :=
  match spanDigits s with
  | ([], c :: rest) =>
    isPoint c && (match spanDigits rest with
      | ([], _) => false
      | (_, tail) => endsNumber tail)
  | ([], []) => false
  | (_, c :: rest) => if isPoint c then endsNumber (spanDigits rest).2 else endsNumber (c :: rest)
  | (_, []) => true

def isHexDigit (c : Char) : Bool :=
  isPlainDigit c || ('a' ≤ c && c ≤ 'f') || ('A' ≤ c && c ≤ 'F')

/-- Whether an unsigned text is a hexadecimal number, with or without the letter of a long one. -/
def isHexadecimal : List Char → Bool
  | '0' :: x :: rest =>
    (x == 'x' || x == 'X') && rest.head?.any isHexDigit &&
      (match rest.dropWhile isHexDigit with
        | [] => true
        | [c] => c == 'l' || c == 'L'
        | _ => false)
  | _ => false

/-- Whether the text is a number in the wide sense. -/
def isNumber (s : String) : Bool :=
  let body := (takeSign s.toList).2
  isWideDecimal body || isHexadecimal body

/-- Whether the text is an integer: an optional sign and digits. -/
def isInteger (s : String) : Bool :=
  match spanDigits (takeSign s.toList).2 with
  | (_ :: _, []) => true
  | _ => false

/-- Whether the text is a float: an optional sign and digits on both sides of a point or comma. -/
def isFloat (s : String) : Bool :=
  match spanDigits (takeSign s.toList).2 with
  | (_ :: _, c :: rest) =>
    isPoint c && (match spanDigits rest with
      | (_ :: _, []) => true
      | _ => false)
  | _ => false

/-! ## Integers with a value -/

/-- The most digits an integer may have to be given a value. -/
def maxIntegerDigits : Nat := 4300

/-- The integer a text written as in `isInteger` denotes, unless it has too many digits. -/
def readInteger? (s : String) : Option Int :=
  let (minus, body) := takeSign s.toList
  match spanDigits body with
  | ([], _) => none
  | (ds, []) =>
    if ds.length ≤ maxIntegerDigits then
      some (if minus then -(ofDigits ds : Int) else ofDigits ds)
    else none
  | _ => none

/-- The digit values of digits with single low lines between them. -/
def separatedDigits : List Char → Option (List Nat)
  | [] => none
  | [c] => (digitValue? c).map ([·])
  | c :: '_' :: rest => do return (← digitValue? c) :: (← separatedDigits rest)
  | c :: d :: rest => do return (← digitValue? c) :: (← separatedDigits (d :: rest))

/-- The integer a person writes: blanks around it are ignored, and single low lines may separate
    its digits. -/
def readLooseInteger? (s : String) : Option Int :=
  let (minus, body) := takeSign (trimChars s.toList)
  match separatedDigits body with
  | some ds =>
    if ds.length ≤ maxIntegerDigits then
      some (if minus then -(ofDigits ds : Int) else ofDigits ds)
    else none
  | none => none

end Reconcile.Decimal
