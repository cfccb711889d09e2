import Reconcile.Document.Value
import Reconcile.Text.DecimalDigit

/-!
# Reading JSON

A JSON text becomes a document value, or a fault with its cause and its place. The reader goes
over the list of characters; what is left of it tells the place of a fault. Beyond the standard
the words `NaN` and `Infinity` are numbers, and of two entries with one name the later counts.
-/

namespace Reconcile.Json

open Reconcile.Document Reconcile.Text

/-! ## 1. Faults -/

/-- Why a text is no JSON. -/
inductive Cause where
  | byteOrderMark
  | valueExpected
  | nameExpected
  | colonExpected
  | commaExpected
  | extraData
  | unterminatedString
  | controlCharacter
  | badEscape
  | badCodeEscape
  deriving DecidableEq, Repr

def Cause.message : Cause → String
  | .byteOrderMark => "Unexpected UTF-8 BOM (decode using utf-8-sig)"
  | .valueExpected => "Expecting value"
  | .nameExpected => "Expecting property name enclosed in double quotes"
  | .colonExpected => "Expecting ':' delimiter"
  | .commaExpected => "Expecting ',' delimiter"
  | .extraData => "Extra data"
  | .unterminatedString => "Unterminated string starting at"
  | .controlCharacter => "Invalid control character at"
  | .badEscape => "Invalid \\escape"
  | .badCodeEscape => "Invalid \\uXXXX escape"

/-- A fault: a cause at a place, which is given by the characters that are left there, or an
    integer with too many digits to be given a value. -/
inductive Fault where
  | malformed (cause : Cause) (left : List Char)
  | integerTooLong (digits : Nat)

/-- The position of a fault in a text, with its line and its column. -/
def place (text : List Char) (position : Nat) : String :=
  let before := text.take position
  let line := before.count '\n' + 1
  let column := (before.reverse.takeWhile (· ≠ '\n')).length + 1
  s!"line {line} column {column} (char {position})"

/-- The most digits an integer may have. -/
def maxDigits : Nat := 4300

/-- The text for an integer that is too long to be given a value. -/
def tooLongMessage (digits : Nat) : String :=
  s!"Exceeds the limit ({maxDigits} digits) for integer string conversion: value has {digits} " ++
    "digits; use sys.set_int_max_str_digits() to increase the limit"

def Fault.message (text : List Char) : Fault → String
  | .malformed cause left => cause.message ++ ": " ++ place text (text.length - left.length)
  | .integerTooLong digits => tooLongMessage digits

/-! ## 2. Scalars -/

def isSpace (c : Char) : Bool := c == ' ' || c == '\t' || c == '\n' || c == '\r'

def skipSpace (s : List Char) : List Char := s.dropWhile isSpace

/-- The number that four hexadecimal digits at the front write. -/
def fourHex? : List Char → Option (Nat × List Char)
  | a :: b :: c :: d :: rest => do
    let n := (((← hexValue? a) * 16 + (← hexValue? b)) * 16 + (← hexValue? c)) * 16 + (← hexValue? d)
    return (n, rest)
  | _ => none

/-- What a letter behind a backslash stands for. -/
def escaped? : Char → Option Char
  | '"' => some '"'
  | '\\' => some '\\'
  | '/' => some '/'
  | 'b' => some '\x08'
  | 'f' => some '\x0c'
  | 'n' => some '\n'
  | 'r' => some '\r'
  | 't' => some '\t'
  | _ => none

/-- The second half of a character written as two codes, when it follows. -/
def lowHalf? : List Char → Option (Nat × List Char)
  | '\\' :: 'u' :: rest => match fourHex? rest with
    | some (n, tail) => if 0xDC00 ≤ n && n ≤ 0xDFFF then some (n, tail) else none
    | none => none
  | _ => none

/-- The character of a code and what follows it; two codes may write one character together. -/
def codeChar (n : Nat) (rest : List Char) : Char × List Char :=
  if 0xD800 ≤ n && n ≤ 0xDBFF then
    match lowHalf? rest with
    | some (low, tail) => (Char.ofNat (0x10000 + (n - 0xD800) * 0x400 + (low - 0xDC00)), tail)
    | none => ('\uFFFD', rest)
  else if 0xDC00 ≤ n && n ≤ 0xDFFF then ('\uFFFD', rest)
  else (Char.ofNat n, rest)

/-- Reads the rest of a string. `start` is the text from its opening quote on, `acc` the
    characters read so far in reverse. -/
def readString (start : List Char) : Nat → List Char → List Char → Except Fault (String × List Char)
  | 0, _, _ => .error (.malformed .unterminatedString start)
  | fuel + 1, acc, s => match s with
    | [] => .error (.malformed .unterminatedString start)
    | '"' :: rest => .ok (String.ofList acc.reverse, rest)
    | ['\\'] => .error (.malformed .unterminatedString start)
    | '\\' :: 'u' :: rest => match fourHex? rest with
      | some (n, tail) =>
        if tail.isEmpty then .error (.malformed .badCodeEscape ('u' :: rest))
        else let (c, more) := codeChar n tail; readString start fuel (c :: acc) more
      | none => .error (.malformed .badCodeEscape ('u' :: rest))
    | '\\' :: c :: rest => match escaped? c with
      | some d => readString start fuel (d :: acc) rest
      | none => .error (.malformed .badEscape s)
    | c :: rest =>
      if c.toNat < 0x20 then .error (.malformed .controlCharacter s)
      else readString start fuel (c :: acc) rest

/-- The digits of a fraction part at the front, when there is one. -/
def readFraction : List Char → List Char × List Char
  | '.' :: rest => match rest.span isPlainDigit with
    | ([], _) => ([], '.' :: rest)
    | found => found
  | s => ([], s)

/-- The exponent at the front, when there is one. -/
def readExponent (s : List Char) : Option Int × List Char :=
  match s with
  | e :: rest =>
    if e == 'e' || e == 'E' then
      let (minus, body) := match rest with
        | '+' :: more => (false, more)
        | '-' :: more => (true, more)
        | _ => (false, rest)
      match body.span isPlainDigit with
      | ([], _) => (none, s)
      | (ds, tail) =>
        let n : Int := ds.foldl (fun n d => 10 * n + (d.toNat - 48)) 0
        (some (if minus then -n else n), tail)
    else (none, s)
  | [] => (none, s)

def decimalOf (minus : Bool) (whole fraction : List Char) (e : Int) : Decimal :=
  ⟨minus, (whole ++ fraction).foldl (fun n d => 10 * n + (d.toNat - 48)) 0, e - fraction.length⟩

/-- Reads a number: an integer unless it has a fraction or an exponent. -/
def readNumber (s : List Char) : Except Fault (Value × List Char) :=
  let (minus, body) := match s with
    | '-' :: rest => (true, rest)
    | _ => (false, s)
  let (whole, rest) := match body with
    | '0' :: more => (['0'], more)
    | _ => body.span isPlainDigit
  if whole.isEmpty then .error (.malformed .valueExpected s)
  else
    let (fraction, tail) := readFraction rest
    let (e, final) := readExponent tail
    if fraction.isEmpty && e.isNone then
      if whole.length > maxDigits then .error (.integerTooLong whole.length)
      else
        let n : Int := whole.foldl (fun n d => 10 * n + (d.toNat - 48)) 0
        .ok (.int (if minus then -n else n), final)
    else .ok (.float (decimalOf minus whole fraction (e.getD 0)).toBinary, final)

/-- The words that stand for values. -/
def words : List (String × Value) :=
  [("null", .null), ("true", .bool true), ("false", .bool false), ("NaN", .float (0.0 / 0.0)),
   ("Infinity", .float (1.0 / 0.0)), ("-Infinity", .float (-1.0 / 0.0))]

def readWord? (s : List Char) : Option (Value × List Char) :=
  words.findSome? fun (w, v) =>
    if w.toList.isPrefixOf s then some (v, s.drop w.length) else none

/-! ## 3. Values -/

mutual

/-- Reads one value. The fuel exceeds the number of characters, and every call uses one up. -/
def readValue : Nat → List Char → Except Fault (Value × List Char)
  | 0, s => .error (.malformed .valueExpected s)
  | fuel + 1, s => match s with
    | '"' :: rest => do
      let (t, tail) ← readString s (rest.length + 1) [] rest
      return (.text t, tail)
    | '{' :: rest => match skipSpace rest with
      | '}' :: tail => .ok (.map [], tail)
      | more => readMembers fuel [] more
    | '[' :: rest => match skipSpace rest with
      | ']' :: tail => .ok (.list [], tail)
      | more => readElements fuel [] more
    | _ => match readWord? s with
      | some found => .ok found
      | none => readNumber s

/-- Reads the entries of an object up to its closing brace. -/
def readMembers : Nat → List (Value × Value) → List Char → Except Fault (Value × List Char)
  | 0, _, s => .error (.malformed .nameExpected s)
  | fuel + 1, acc, s => match s with
    | '"' :: rest => do
      let (name, tail) ← readString s (rest.length + 1) [] rest
      match skipSpace tail with
      | ':' :: more =>
        let (v, final) ← readValue fuel (skipSpace more)
        let entries := (Value.text name, v) :: acc
        match skipSpace final with
        | '}' :: tail => .ok (Value.ofPairs entries.reverse, tail)
        | ',' :: tail => readMembers fuel entries (skipSpace tail)
        | left => .error (.malformed .commaExpected left)
      | left => .error (.malformed .colonExpected left)
    | _ => .error (.malformed .nameExpected s)

/-- Reads the elements of an array up to its closing bracket. -/
def readElements : Nat → List Value → List Char → Except Fault (Value × List Char)
  | 0, _, s => .error (.malformed .valueExpected s)
  | fuel + 1, acc, s => do
    let (v, final) ← readValue fuel s
    match skipSpace final with
    | ']' :: tail => .ok (.list (v :: acc).reverse, tail)
    | ',' :: tail => readElements fuel (v :: acc) (skipSpace tail)
    | left => .error (.malformed .commaExpected left)

end

/-- Reads a whole text. -/
def read (text : List Char) : Except Fault Value := do
  if text.head? == some '\uFEFF' then throw (.malformed .byteOrderMark text)
  let (v, rest) ← readValue (2 * text.length + 2) (skipSpace text)
  match skipSpace rest with
  | [] => return v
  | left => throw (.malformed .extraData left)

end Reconcile.Json
