import Reconcile.Text.DecimalDigit

/-!
# Bytes written in letters

Base 64: four characters of the alphabet stand for three bytes. Characters outside of the alphabet
are passed over; the sign `=` fills up the last group, and what follows a filled group is not
looked at.
-/

namespace Reconcile.Text

/-- The value of a character of the alphabet, below 64. -/
def sextet? (c : Char) : Option Nat :=
  if 'A' ≤ c && c ≤ 'Z' then some (c.toNat - 65)
  else if 'a' ≤ c && c ≤ 'z' then some (c.toNat - 71)
  else if isPlainDigit c then some (c.toNat + 4)
  else if c == '+' then some 62
  else if c == '/' then some 63
  else none

/-- The bytes of one group of values. A lone value stands for no byte. -/
def groupBytes : List Nat → List Nat
  | [a, b] => [a * 4 + b / 16]
  | [a, b, c] => [a * 4 + b / 16, b % 16 * 16 + c / 4]
  | [a, b, c, d] => [a * 4 + b / 16, b % 16 * 16 + c / 4, c % 4 * 64 + d]
  | _ => []

/-- Reads bytes. The open group has at most three values, and `fills` counts the signs that came
    directly behind it; a group that is open at the end is a fault. -/
def readBase64 (group : List Nat) (fills : Nat) : List Char → Option (List Nat)
  | [] => if group.isEmpty then some [] else none
  | c :: rest =>
    if c == '=' then
      if group.length < 2 then readBase64 group fills rest
      else if group.length + fills + 1 ≥ 4 then some (groupBytes group)
      else readBase64 group (fills + 1) rest
    else match sextet? c with
      | none => readBase64 group fills rest
      | some v =>
        if group.length == 3 then
          (readBase64 [] 0 rest).map (groupBytes (group ++ [v]) ++ ·)
        else readBase64 (group ++ [v]) 0 rest

end Reconcile.Text
