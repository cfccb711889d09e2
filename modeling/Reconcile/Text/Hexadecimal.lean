import Reconcile.Text.DecimalDigit

/-!
# Base sixteen

Digits of base sixteen, written in small letters and read in either case.
-/

namespace Reconcile.Text

/-- The last digits of a number in base sixteen, as many as asked for. -/
def hexDigits (width n : Nat) : List Char :=
  let ds := Nat.toDigits 16 n
  List.replicate (width - ds.length) '0' ++ ds

/-- The value of a digit of base sixteen. -/
def hexValue? (c : Char) : Option Nat :=
  if isPlainDigit c then some (c.toNat - 48)
  else if 'a' ≤ c && c ≤ 'f' then some (c.toNat - 87)
  else if 'A' ≤ c && c ≤ 'F' then some (c.toNat - 55)
  else none

end Reconcile.Text
