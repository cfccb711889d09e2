import Reconcile.Decimal.Rounding

/-!
# Binary numbers as decimals

Numbers that come with a document or a log record are binary floating point numbers. Their
written form has the fewest digits that read back to the same number, and of those the digits
nearest to it. This module decodes the bits, tests by exact arithmetic whether a decimal reads
back, searches for the shortest one, and rounds a number to a given number of places.
-/

namespace Reconcile.Decimal

/-! ## 1. Decoding -/

/-- A finite binary number without its sign, `m * 2^q`. -/
structure Binary where
  m : Nat
  q : Int
  /-- the gap to the number below is half the gap to the number above -/
  narrowBelow : Bool

/-- The parts of a finite number. -/
def Binary.ofFloat (x : Float) : Binary :=
  let bits := x.toBits
  let e := ((bits >>> 52) &&& 0x7FF).toNat
  let f := (bits &&& 0xFFFFFFFFFFFFF).toNat
  if e == 0 then ⟨f, -1074, false⟩ else ⟨Nat.pow 2 52 + f, (e : Int) - 1075, f == 0 && e > 1⟩

/-- Whether the sign bit is set, which tells the two zeros apart. -/
def signBit (x : Float) : Bool := (x.toBits >>> 63) == 1

/-- The exact decimal value of a finite number. -/
def ofBinary (x : Float) : Decimal :=
  let b := Binary.ofFloat x
  if b.q ≥ 0 then ⟨signBit x, b.m * Nat.pow 2 b.q.toNat, 0⟩
  else ⟨signBit x, b.m * Nat.pow 5 (-b.q).toNat, b.q⟩

/-! ## 2. Reading back -/

/-- Compares `a * 10^i` with `n * 2^j` exactly. -/
def compareScaled (a : Nat) (i : Int) (n : Nat) (j : Int) : Ordering :=
  Ord.compare (a * Nat.pow 10 i.toNat * Nat.pow 2 (-j).toNat)
    (n * Nat.pow 2 j.toNat * Nat.pow 10 (-i).toNat)

/-- Whether `c * 10^e` lies among the numbers that round to the binary number: between the middles
    to its two neighbours, and on a middle when `m` is even. -/
def Binary.readsBack (b : Binary) (c : Nat) (e : Int) : Bool :=
  let low := if b.narrowBelow then 4 * b.m - 1 else 4 * b.m - 2
  let below := compareScaled c e low (b.q - 2)
  let above := compareScaled c e (4 * b.m + 2) (b.q - 2)
  let even := b.m % 2 == 0
  (below == .gt || (even && below == .eq)) && (above == .lt || (even && above == .eq))

/-- The quotient of the number by `10^e`, rounded down, and how its double compares with twice
    that quotient and one more. -/
def Binary.grid (b : Binary) (e : Int) : Nat × Ordering :=
  let num := b.m * Nat.pow 2 b.q.toNat * Nat.pow 10 (-e).toNat
  let den := Nat.pow 2 (-b.q).toNat * Nat.pow 10 e.toNat
  (num / den, Ord.compare (2 * (num % den)) den)

/-- The point of the grid `10^e` nearest to the number among those of its two neighbours that
    read back; of two equally near ones the even one. -/
def Binary.onGrid? (b : Binary) (e : Int) : Option (Nat × Int) :=
  let (c, half) := b.grid e
  let down := b.readsBack c e && c != 0
  let up := b.readsBack (c + 1) e
  if down && up then
    match half with
    | .lt => some (c, e)
    | .gt => some (c + 1, e)
    | .eq => some (if c % 2 == 0 then c else c + 1, e)
  else if down then some (c, e)
  else if up then some (c + 1, e)
  else none

/-- The least `k` with `m * 2^q < 10^k`, found by counting up from a lower bound. -/
def Binary.leadFrom (b : Binary) : Nat → Int → Int
  | 0, k => k
  | fuel + 1, k => if compareScaled 1 k b.m b.q == .gt then k else b.leadFrom fuel (k + 1)

/-- One more than the exponent of the leading digit. -/
def Binary.lead (b : Binary) : Int :=
  let bits : Int := b.q + b.m.log2
  b.leadFrom 4 (bits * 30103 / 100000 - 1)

/-- Drops zeros at the end of a coefficient. -/
def stripZeros : Nat → Nat → Int → Nat × Int
  | 0, c, e => (c, e)
  | fuel + 1, c, e => if c != 0 && c % 10 == 0 then stripZeros fuel (c / 10) (e + 1) else (c, e)

/-- The shortest decimal that reads back to a finite number, nearest among the shortest. Every
    number reads back from seventeen digits; its exact value stands behind the search. -/
def shortest (x : Float) : Decimal :=
  let b := Binary.ofFloat x
  if b.m == 0 then ⟨signBit x, 0, 0⟩
  else
    let k := b.lead
    match (List.range 17).findSome? fun (n : Nat) => b.onGrid? (k - 1 - n) with
    | some (c, e) => let (c, e) := stripZeros 20 c e; ⟨signBit x, c, e⟩
    | none => ofBinary x

/-- The binary number nearest to a decimal. What is beyond the range in either direction is
    infinite or zero, which is seen without building a huge power of ten. -/
def toBinary (d : Decimal) : Float :=
  let x : Float :=
    if d.isZero || d.adjusted < -400 then 0.0
    else if d.adjusted > 400 then 1.0 / 0.0
    else Float.ofScientific d.coefficient (d.exponent < 0) d.exponent.natAbs
  if d.negative then -x else x

/-! ## 3. Text and rounding -/

/-- The written form of a binary number: positional while the leading digit stands for a power of
    ten from -4 to 15, always with a point; otherwise with a signed exponent of at least two
    digits. -/
def binaryText (x : Float) : String :=
  if x.isNaN then "nan"
  else if x.isInf then if signBit x then "-inf" else "inf"
  else
    let d := shortest x
    let ds := d.digits
    let lead := d.exponent + ds.length
    let body : String :=
      if d.isZero then "0.0"
      else if -4 < lead && lead ≤ 16 then
        if lead ≤ 0 then "0." ++ String.ofList (List.replicate (-lead).toNat '0' ++ ds)
        else if lead.toNat < ds.length then
          String.ofList (ds.take lead.toNat) ++ "." ++ String.ofList (ds.drop lead.toNat)
        else String.ofList (ds ++ List.replicate (lead.toNat - ds.length) '0') ++ ".0"
      else
        let e := lead - 1
        let mantissa := String.ofList (ds.take 1) ++
          (if ds.length > 1 then "." ++ String.ofList (ds.drop 1) else "")
        let size := toString e.natAbs
        mantissa ++ "e" ++ (if e < 0 then "-" else "+") ++
          (if size.length < 2 then "0" ++ size else size)
    (if d.negative then "-" else "") ++ body

/-- The binary number nearest to the number rounded to the given places, an exact half of its
    binary value going to the even digit. -/
def roundBinary (places : Nat) (x : Float) : Float :=
  if x.isNaN || x.isInf then x else toBinary (requantize .toEven (ofBinary x) (-(places : Int)))

end Reconcile.Decimal
