import Reconcile.Decimal.Basic

/-!
# The written form of a decimal

A decimal is written so that its sign, its coefficient and its exponent can be read off again:
positionally while the exponent is not positive and the leading digit stands no further right
than the sixth place behind the point, otherwise with an exponent after the first digit.
-/

namespace Reconcile.Decimal

/-- An exponent with its sign. -/
def exponentText (e : Int) : String :=
  "E" ++ (if e < 0 then "-" else "+") ++ toString e.natAbs

/-- Digits with a point after the given number of them, a zero where no digit stands before the
    point, and zeros between the point and the digits when the number is negative. -/
def pointed (ds : List Char) (place : Int) : String :=
  if place ≤ 0 then
    "0." ++ String.ofList (List.replicate (-place).toNat '0' ++ ds)
  else if place.toNat < ds.length then
    String.ofList (ds.take place.toNat) ++ "." ++ String.ofList (ds.drop place.toNat)
  else String.ofList (ds ++ List.replicate (place.toNat - ds.length) '0')

/-- The decimal without its sign. -/
def unsignedText (d : Decimal) : String :=
  if d.exponent ≤ 0 && -6 ≤ d.adjusted then pointed d.digits (d.exponent + d.digits.length)
  else if d.adjusted = 0 then pointed d.digits 1
  else pointed d.digits 1 ++ exponentText d.adjusted

/-- The written form of a decimal. -/
def text (d : Decimal) : String := (if d.negative then "-" else "") ++ d.unsignedText

end Reconcile.Decimal
