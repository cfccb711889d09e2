/-!
# Decimals

A decimal is a sign, a coefficient and a power of ten. Two decimals that denote the same number
may be written differently, and the difference is kept: `1.50` has the coefficient 150 and the
exponent -2, and zero keeps its sign. Comparison, sum and difference look at the numbers only
and are exact.
-/

namespace Reconcile

/-- The number `(-1)^negative * coefficient * 10^exponent`, together with the way it is written. -/
structure Decimal where
  negative : Bool
  coefficient : Nat
  exponent : Int
  deriving DecidableEq, Repr, Inhabited

namespace Decimal

/-! ## 1. Parts -/

/-- The digits of the coefficient, most significant first; zero has one digit. -/
def digits (d : Decimal) : List Char := Nat.toDigits 10 d.coefficient

/-- The exponent of the leading digit. -/
def adjusted (d : Decimal) : Int := d.exponent + d.digits.length - 1

/-- The whole number as a decimal without fraction digits. -/
def ofInt (n : Int) : Decimal := ⟨n < 0, n.natAbs, 0⟩

def zero : Decimal := ⟨false, 0, 0⟩

def isZero (d : Decimal) : Bool := d.coefficient == 0

/-- The decimal with its sign dropped and all its digits kept. -/
def magnitude (d : Decimal) : Decimal := { d with negative := false }

/-- The decimal with the other sign. -/
def neg (d : Decimal) : Decimal := { d with negative := !d.negative }

/-! ## 2. Alignment, sum and difference -/

/-- The coefficient with its sign, in units of `10^e`, for an `e` not above the exponent. -/
def scaledTo (d : Decimal) (e : Int) : Int :=
  let n : Int := d.coefficient * Nat.pow 10 (d.exponent - e).toNat
  if d.negative then -n else n

/-- The exact sum, in the finer unit of the two. -/
def add (a b : Decimal) : Decimal :=
  let e := min a.exponent b.exponent
  let n := a.scaledTo e + b.scaledTo e
  ⟨n < 0, n.natAbs, e⟩

/-- The exact difference, in the finer unit of the two. -/
def sub (a b : Decimal) : Decimal := a.add b.neg

/-- The distance of two decimals. -/
def distance (a b : Decimal) : Decimal := (a.sub b).magnitude

/-! ## 3. Order -/

/-- The sign of the number: -1, 0 or 1. -/
def sign (d : Decimal) : Int := if d.isZero then 0 else if d.negative then -1 else 1

/-- The order of the numbers. Decimals of different sign or of different leading exponent are
    told apart without lining up their digits, so a huge exponent costs nothing. -/
def compare (a b : Decimal) : Ordering :=
  if a.sign ≠ b.sign then Ord.compare a.sign b.sign
  else if a.isZero then .eq
  else if a.adjusted ≠ b.adjusted then
    if a.negative then Ord.compare b.adjusted a.adjusted else Ord.compare a.adjusted b.adjusted
  else
    let e := min a.exponent b.exponent
    Ord.compare (a.scaledTo e) (b.scaledTo e)

/-- Whether the two denote the same number. -/
def same (a b : Decimal) : Bool := a.compare b == .eq

def lt (a b : Decimal) : Bool := a.compare b == .lt

def le (a b : Decimal) : Bool := a.compare b != .gt

end Decimal

end Reconcile
