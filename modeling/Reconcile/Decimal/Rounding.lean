import Reconcile.Decimal.Basic

/-!
# Rounding and tolerant comparison

Rounding to a number of places, halves away from zero, and the two comparisons of numbers: equal
up to a margin after rounding, and no further apart than a precision. Everything is exact except
the absolute value of a comparison, which keeps 28 significant digits.
-/

namespace Reconcile.Decimal

/-! ## 1. Rounding -/

/-- Where an exact half goes. -/
inductive Half where
  | up
  | toEven
  deriving DecidableEq, Repr

/-- A quotient of naturals rounded to the nearest natural. -/
def roundQuotient (half : Half) (n d : Nat) : Nat :=
  let q := n / d
  match Ord.compare (2 * (n % d)) d, half with
  | .lt, _ => q
  | .gt, _ => q + 1
  | .eq, .up => q + 1
  | .eq, .toEven => if q % 2 == 0 then q else q + 1

/-- The decimal in units of `10^e`, rounded when the unit is coarser than its last digit. -/
def requantize (half : Half) (d : Decimal) (e : Int) : Decimal :=
  if e ≤ d.exponent then ⟨d.negative, d.coefficient * Nat.pow 10 (d.exponent - e).toNat, e⟩
  else ⟨d.negative, roundQuotient half d.coefficient (Nat.pow 10 (e - d.exponent).toNat), e⟩

/-- The decimal rounded to a number of places, an exact half away from zero. -/
def roundHalfUp (d : Decimal) (places : Int) : Decimal := requantize .up d (-places)

/-- The significant digits of an absolute value. -/
def significantDigits : Nat := 28

/-- The decimal with at most the given number of digits, an exact half going to the even digit. -/
def limitDigits (count : Nat) (d : Decimal) : Decimal :=
  if d.digits.length ≤ count then d
  else
    let e := d.exponent + (d.digits.length - count : Nat)
    let r := requantize .toEven d e
    if r.digits.length ≤ count then r else ⟨r.negative, r.coefficient / 10, e + 1⟩

/-- The absolute value, to 28 significant digits. -/
def abs (d : Decimal) : Decimal := limitDigits significantDigits d.magnitude

/-! ## 2. Comparison -/

/-- Whether two numbers are equal, after dropping the signs if asked to, after rounding both when
    a scale is given, and up to less than the margin when there is one. -/
def agree (expected actual : Decimal) (scale : Option Int) (margin : Option Decimal)
    (absolute : Bool) : Bool :=
  let prepare (d : Decimal) : Decimal :=
    let d := if absolute then d.abs else d
    match scale with
    | some places => d.roundHalfUp places
    | none => d
  let e := prepare expected
  let a := prepare actual
  match margin with
  | none => e.same a
  | some m => (e.distance a).lt m

/-- Whether two numbers are no further apart than the precision. -/
def within (expected actual precision : Decimal) : Bool := (expected.distance actual).le precision

end Reconcile.Decimal
