import Reconcile.Document.Value

/-!
# Writing JSON

A value on one line: a comma and a space between items, a colon and a space behind a name, every
character as itself except quotes, backslashes and control characters. What JSON cannot hold is
written as its text. Not every value can be written (`isWritable`).
-/

namespace Reconcile.Json

open Reconcile.Document

/-- The letter that stands behind a backslash for a character with an escape of its own. -/
def escapeLetter? : Char → Option Char
  | '"' => some '"'
  | '\\' => some '\\'
  | '\n' => some 'n'
  | '\r' => some 'r'
  | '\t' => some 't'
  | '\x0c' => some 'f'
  | '\x08' => some 'b'
  | _ => none

/-- One character inside a string. -/
def writeChar (c : Char) : List Char :=
  match escapeLetter? c with
  | some l => ['\\', l]
  | none => if c.toNat < 0x20 then '\\' :: 'u' :: Text.hexDigits 4 c.toNat else [c]

/-- A string with its quotes. -/
def writeString (s : String) : String :=
  String.ofList ('"' :: s.toList.flatMap writeChar ++ ['"'])

/-- A binary number; the values that are no numbers are written as words. -/
def writeFloat (x : Float) : String :=
  if x.isNaN then "NaN"
  else if x.isInf then if x < 0 then "-Infinity" else "Infinity"
  else Decimal.binaryText x

/-- The name of an entry: a text as it is, a scalar as it is written. -/
def writeName : Value → String
  | .null => writeString "null"
  | .bool b => writeString (if b then "true" else "false")
  | .float x => writeString (writeFloat x)
  | v => writeString v.plain

mutual

/-- A value on one line. -/
def write : Value → String
  | .null => "null"
  | .bool b => if b then "true" else "false"
  | .int n => toString n
  | .float x => writeFloat x
  | .text s => writeString s
  | .list xs => "[" ++ ", ".intercalate (writeItems xs) ++ "]"
  | .tuple xs => "[" ++ ", ".intercalate (writeItems xs) ++ "]"
  | .map es => "\x7b" ++ ", ".intercalate (writeEntries es) ++ "\x7d"
  | .labelled _ v => write v
  | v => writeString v.plain

def writeItems : List Value → List String
  | [] => []
  | x :: xs => write x :: writeItems xs

def writeEntries : List (Value × Value) → List String
  | [] => []
  | (k, v) :: es => (writeName k ++ ": " ++ write v) :: writeEntries es

end

/-- Whether a value can be the name of an entry. -/
def isName : Value → Bool
  | .null | .bool _ | .float _ | .text _ => true
  | .int n => (Value.int n).isShowable
  | _ => false

mutual

/-- Whether a value can be written: its entries have names, no collection of it comes inside of
    itself, and what JSON cannot hold can be shown. -/
def isWritable : Value → Bool
  | .list xs | .tuple xs => areWritable xs
  | .map es => haveWritableParts es
  | .labelled _ _ | .again _ _ => false
  | v => v.isShowable

def areWritable : List Value → Bool
  | [] => true
  | x :: xs => isWritable x && areWritable xs

def haveWritableParts : List (Value × Value) → Bool
  | [] => true
  | (k, v) :: es => isName k && isWritable v && haveWritableParts es

end

end Reconcile.Json
