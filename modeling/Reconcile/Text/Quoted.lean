import Reconcile.Text.Hexadecimal
import Reconcile.Text.Printable

/-!
# Quoted text

How a text is shown inside a message: between quotes, with everything that does not print
written as an escape, so that two different texts never look the same. Single quotes are used
unless the text holds a single quote and no double one.
-/

namespace Reconcile.Text

/-- The quote that a text is put between. -/
def quoteFor (s : List Char) : Char := if s.contains '\'' && !s.contains '"' then '"' else '\''

/-- One character inside quotes. -/
def quotedChar (quote c : Char) : List Char :=
  if c == quote || c == '\\' then ['\\', c]
  else if c == '\t' then ['\\', 't']
  else if c == '\n' then ['\\', 'n']
  else if c == '\r' then ['\\', 'r']
  else if isPrintable c then [c]
  else if c.toNat < 0x100 then '\\' :: 'x' :: hexDigits 2 c.toNat
  else if c.toNat < 0x10000 then '\\' :: 'u' :: hexDigits 4 c.toNat
  else '\\' :: 'U' :: hexDigits 8 c.toNat

/-- The text between quotes. -/
def quoted (s : String) : String :=
  let cs := s.toList
  let quote := quoteFor cs
  String.ofList (quote :: cs.flatMap (quotedChar quote) ++ [quote])

/-- The text between quotes, or the word for an absent one. -/
def quotedOption : Option String → String
  | some s => quoted s
  | none => "None"

/-- Items between brackets. -/
def bracketed (items : List String) : String := "[" ++ ", ".intercalate items ++ "]"

/-- Pairs between braces. -/
def braced (pairs : List (String × String)) : String :=
  "\x7b" ++ ", ".intercalate (pairs.map fun (k, v) => k ++ ": " ++ v) ++ "\x7d"

end Reconcile.Text
