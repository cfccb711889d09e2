import Mathlib.Data.Int.Log
import Reconcile.Proofs.Decimal.Agreement

/-!
# Agreement without signs

Two decimals that are compared without their signs are replaced by their absolute values first. This
is the one step that is not exact: an absolute value keeps 28 significant digits, and whatever is
written behind them is rounded away.

* `toSignificant`: a number to some significant digits, said without a decimal;
* `roundQuotient_toEven`: a quotient rounded to the nearest integer, halves to the even one;
* **`abs_number`**: the absolute value of a decimal, as a number;
* `abs_eq_iff`: it is exact when everything behind its digits is zero;
* **`agree_unsigned`**: agreement without signs, and when it is that of the exact absolute values;
* `agree_loses_digits`: two numbers that differ, and agree without their signs.
-/

namespace Reconcile.Decimal

/-! ## 1. Significant digits -/

/-- The integer that is nearest to a number; of two that are equally near, the even one. -/
def nearestEven (x : ℚ) : ℤ :=
  if 2 * Int.fract x < 1 then ⌊x⌋
  else if 1 < 2 * Int.fract x then ⌊x⌋ + 1
  else if Even ⌊x⌋ then ⌊x⌋ else ⌊x⌋ + 1

/-- The power of ten of the last digit, when a number has the given count of digits. -/
def lastPlace (count : Nat) (x : ℚ) : ℤ := Int.log 10 |x| + 1 - count

/-- A number to the given count of significant digits, an exact half going to the even digit. -/
def toSignificant (count : Nat) (x : ℚ) : ℚ :=
  nearestEven (x / (10 : ℚ) ^ lastPlace count x) * (10 : ℚ) ^ lastPlace count x

@[simp] theorem nearestEven_intCast (n : ℤ) : nearestEven n = n := by simp [nearestEven]

/-- A quotient of naturals is rounded as its number is. -/
theorem roundQuotient_toEven (n : Nat) {d : Nat} (hd : 0 < d) :
    (roundQuotient .toEven n d : ℤ) = nearestEven ((n : ℚ) / d) := by
  have hpos : (0 : ℚ) < d := Nat.cast_pos.mpr hd
  have hfloor : ⌊(n : ℚ) / d⌋ = ((n / d : Nat) : ℤ) := by
    exact_mod_cast Rat.floor_natCast_div_natCast n d
  have hfract : Int.fract ((n : ℚ) / d) = ((n % d : Nat) : ℚ) / d :=
    Int.fract_div_natCast_eq_div_natCast_mod
  have heven : Even ((n / d : Nat) : ℤ) ↔ n / d % 2 = 0 := by
    rw [Int.even_coe_nat, Nat.even_iff]
  have hless : 2 * Int.fract ((n : ℚ) / d) < 1 ↔ 2 * (n % d) < d := by
    rw [hfract, mul_div_assoc', div_lt_one hpos]
    exact_mod_cast Iff.rfl
  have hmore : 1 < 2 * Int.fract ((n : ℚ) / d) ↔ d < 2 * (n % d) := by
    rw [hfract, mul_div_assoc', one_lt_div hpos]
    exact_mod_cast Iff.rfl
  unfold nearestEven roundQuotient
  rw [hfloor]
  simp only [hless, hmore, heven]
  rcases lt_trichotomy (2 * (n % d)) d with h | h | h
  · rw [compare_lt_iff_lt.mpr h, if_pos h]
  · rw [compare_eq_iff_eq.mpr h, if_neg h.not_lt, if_neg h.not_gt]
    by_cases hq : n / d % 2 = 0 <;> simp [hq]
  · rw [compare_gt_iff_gt.mpr h, if_neg (not_lt.mpr h.le), if_pos h]
    simp

/-- A number keeps its digits when it is a multiple of the last place, and only then. -/
theorem toSignificant_eq_self_iff {count : Nat} {x : ℚ} :
    toSignificant count x = x ↔ ∃ n : ℤ, x = n * (10 : ℚ) ^ lastPlace count x := by
  have hplace := (pow_ten_pos (lastPlace count x)).ne'
  constructor
  · intro h
    exact ⟨_, h.symm⟩
  · rintro ⟨n, hn⟩
    have hquotient : x / (10 : ℚ) ^ lastPlace count x = n := (div_eq_iff hplace).mpr hn
    rw [toSignificant, hquotient, nearestEven_intCast, ← hn]

/-! ## 2. The absolute value -/

variable {count : Nat} {d : Decimal}

/-- A decimal without a minus is its own size. -/
theorem abs_toRat_of_unsigned (hd : d.negative = false) : |d.toRat| = d.toRat := by
  rw [← magnitude_toRat, magnitude, ← hd]

/-- The leading digit of a decimal is where the logarithm of its number says. -/
theorem log_toRat (h : d.isZero = false) : Int.log 10 |d.toRat| = d.adjusted := by
  have hpos : 0 < |d.toRat| := (pow_ten_pos _).trans_le (le_magnitude h)
  have hlow : d.adjusted ≤ Int.log 10 |d.toRat| :=
    (Int.zpow_le_iff_le_log (by norm_num) hpos).mp (by exact_mod_cast le_magnitude h)
  have hhigh : Int.log 10 |d.toRat| < d.adjusted + 1 :=
    (Int.lt_zpow_iff_log_lt (by norm_num) hpos).mp (by exact_mod_cast d.magnitude_lt)
  omega

theorem lastPlace_toRat (h : d.isZero = false) :
    lastPlace count |d.toRat| = d.exponent + d.digits.length - count := by
  rw [lastPlace, abs_abs, log_toRat h, adjusted]
  omega

/-- Whether all digits of a decimal behind the given count of them are zeros. -/
def EndsWithin (count : Nat) (d : Decimal) : Prop :=
  10 ^ (d.digits.length - count) ∣ d.coefficient

instance (count : Nat) (d : Decimal) : Decidable (EndsWithin count d) :=
  inferInstanceAs (Decidable (_ ∣ _))

/-- The digits of a decimal end within the given count when its number is a multiple of the last
    place. -/
theorem endsWithin_iff :
    EndsWithin count d ↔ ∃ n : ℤ, |d.toRat| = n * (10 : ℚ) ^ lastPlace count |d.toRat| := by
  have hten : (10 : ℚ) ≠ 0 := by norm_num
  cases hzero : d.isZero with
  | true =>
    have hcoefficient : d.coefficient = 0 := by simpa [isZero] using hzero
    have hnumber : d.toRat = 0 := (toRat_eq_zero_iff d).mpr hzero
    refine iff_of_true ?_ ⟨0, ?_⟩
    · rw [EndsWithin, hcoefficient]
      exact dvd_zero _
    · rw [hnumber]
      simp
  | false =>
    rw [lastPlace_toRat hzero, abs_toRat, EndsWithin]
    constructor
    · rintro ⟨q, hq⟩
      -- what is behind the last place is left out, and what is missing up to it is filled with zeros
      obtain ⟨k, hk⟩ : ∃ k : Nat, d.exponent + (d.digits.length - count : Nat) =
          k + (d.exponent + d.digits.length - count) := ⟨count - d.digits.length, by omega⟩
      refine ⟨q * 10 ^ k, ?_⟩
      calc (d.coefficient : ℚ) * (10 : ℚ) ^ d.exponent
          = q * (10 : ℚ) ^ (d.exponent + (d.digits.length - count : Nat)) := by
            rw [hq, zpow_add₀ hten, zpow_natCast]
            push_cast
            ring
        _ = (q * 10 ^ k : ℤ) * (10 : ℚ) ^ (d.exponent + d.digits.length - count) := by
            rw [hk, zpow_add₀ hten, zpow_natCast]
            push_cast
            ring
    · rintro ⟨n, hn⟩
      by_cases hlength : d.digits.length ≤ count
      · rw [Nat.sub_eq_zero_of_le hlength, pow_zero]
        exact one_dvd _
      · have hplace : d.exponent + d.digits.length - count =
            (d.digits.length - count : Nat) + d.exponent := by omega
        rw [hplace, zpow_add₀ hten, zpow_natCast, ← mul_assoc] at hn
        have hscaled := mul_right_cancel₀ (pow_ten_pos d.exponent).ne' hn
        have hcast : (d.coefficient : ℤ) = n * 10 ^ (d.digits.length - count) := by
          exact_mod_cast hscaled
        refine Int.natCast_dvd_natCast.mp ⟨n, ?_⟩
        rw [hcast]
        push_cast
        ring

theorem endsWithin_of_length_le (h : d.digits.length ≤ count) : EndsWithin count d := by
  rw [EndsWithin, Nat.sub_eq_zero_of_le h, pow_zero]
  exact one_dvd _

theorem roundQuotient_le (half : Half) (n d : Nat) : roundQuotient half n d ≤ n / d + 1 := by
  unfold roundQuotient
  dsimp only
  split <;> try split
  all_goals omega

/-- Rounding up to a digit more gives a one with zeros behind it. -/
theorem coefficient_of_carry (hcount : 0 < count) {n len : Nat} (hlen : count ≤ len)
    (hn : n < 10 ^ len) (hcarry : 10 ^ count ≤ roundQuotient .toEven n (10 ^ (len - count))) :
    roundQuotient .toEven n (10 ^ (len - count)) = 10 ^ (count - 1) * 10 := by
  have hsplit : 10 ^ len = 10 ^ (len - count) * 10 ^ count := by
    rw [← pow_add]
    congr 1
    omega
  have hquotient : n / 10 ^ (len - count) < 10 ^ count := Nat.div_lt_of_lt_mul (hsplit ▸ hn)
  have hle := roundQuotient_le .toEven n (10 ^ (len - count))
  have hpow : 10 ^ count = 10 ^ (count - 1) * 10 := by
    rw [← pow_succ, Nat.sub_add_cancel hcount]
  omega

/-- A decimal that has too many digits, in units of the last digit it may have. -/
theorem requantize_toEven (hd : d.negative = false) (hlong : count < d.digits.length) :
    requantize .toEven d (d.exponent + (d.digits.length - count : Nat)) =
      ⟨false, roundQuotient .toEven d.coefficient (10 ^ (d.digits.length - count)),
        d.exponent + (d.digits.length - count : Nat)⟩ := by
  have hcoarse : ¬ d.exponent + (d.digits.length - count : Nat) ≤ d.exponent := by omega
  have hunit : (d.exponent + (d.digits.length - count : Nat) - d.exponent).toNat =
      d.digits.length - count := by omega
  rw [requantize, if_neg hcoarse, hd, hunit]
  rfl

/-- Rounding a decimal to its leading digits rounds its number. -/
theorem requantize_toRat (hcount : 0 < count) (hd : d.negative = false)
    (hlong : count < d.digits.length) :
    (requantize .toEven d (d.exponent + (d.digits.length - count : Nat))).toRat =
      toSignificant count d.toRat := by
  have habs := abs_toRat_of_unsigned hd
  have hzero : d.isZero = false := by
    by_contra h
    have hcoefficient : d.coefficient = 0 := by simpa [isZero] using h
    have hone : d.digits.length = 1 := by rw [digits, hcoefficient]; rfl
    omega
  have hplace : lastPlace count d.toRat = d.exponent + (d.digits.length - count : Nat) := by
    rw [← habs, lastPlace_toRat hzero]
    omega
  have hquotient : d.toRat / (10 : ℚ) ^ (d.exponent + (d.digits.length - count : Nat)) =
      (d.coefficient : ℚ) / ((10 ^ (d.digits.length - count) : Nat) : ℚ) := by
    rw [← habs, abs_toRat, add_comm d.exponent, zpow_add₀ (by norm_num), zpow_natCast,
      mul_div_mul_right _ _ (pow_ten_pos d.exponent).ne']
    push_cast
    rfl
  have hrounded := roundQuotient_toEven d.coefficient (d := 10 ^ (d.digits.length - count))
    (Nat.pow_pos (by omega))
  rw [requantize_toEven hd hlong, toSignificant, hplace, hquotient, ← hrounded]
  rfl

/-- **A decimal of a limited number of digits** is the decimal rounded to as many significant
    digits. -/
theorem limitDigits_toRat (hcount : 0 < count) (hd : d.negative = false) :
    (limitDigits count d).toRat = toSignificant count d.toRat := by
  unfold limitDigits
  by_cases hshort : d.digits.length ≤ count
  · rw [if_pos hshort, eq_comm, toSignificant_eq_self_iff, ← abs_toRat_of_unsigned hd]
    exact endsWithin_iff.mp (endsWithin_of_length_le hshort)
  · have hlong : count < d.digits.length := Nat.lt_of_not_le hshort
    have hnumber := requantize_toRat hcount hd hlong
    rw [requantize_toEven hd hlong] at hnumber
    rw [if_neg hshort, ← hnumber]
    dsimp only
    rw [requantize_toEven hd hlong]
    split
    · rfl
    · -- the digits were all nines, and the one that they become has a zero too many
      rename_i hcarry
      have hpower := (length_digits_le_iff _ hcount).not.mp hcarry
      have hcoefficient := coefficient_of_carry hcount hlong.le
        ((d.length_digits_le_iff (by omega)).mp le_rfl) (Nat.le_of_not_lt hpower)
      unfold toRat signed
      dsimp only
      rw [hcoefficient, Nat.mul_div_cancel _ (by omega), zpow_add_one₀ (by norm_num)]
      push_cast
      ring

/-- No more digits are left than the count says. -/
theorem length_limitDigits_le (hcount : 0 < count) (hd : d.negative = false) :
    (limitDigits count d).digits.length ≤ count := by
  unfold limitDigits
  by_cases hshort : d.digits.length ≤ count
  · rwa [if_pos hshort]
  · have hlong : count < d.digits.length := Nat.lt_of_not_le hshort
    rw [if_neg hshort]
    dsimp only
    rw [requantize_toEven hd hlong]
    split
    · assumption
    · rename_i hcarry
      have hpower := (length_digits_le_iff _ hcount).not.mp hcarry
      have hcoefficient := coefficient_of_carry hcount hlong.le
        ((d.length_digits_le_iff (by omega)).mp le_rfl) (Nat.le_of_not_lt hpower)
      rw [length_digits_le_iff _ hcount]
      dsimp only
      rw [hcoefficient, Nat.mul_div_cancel _ (by omega)]
      exact Nat.pow_lt_pow_right (by omega) (by omega)

/-! ## 3. Agreement -/

theorem abs_negative (d : Decimal) : d.abs.negative = false := by
  unfold abs limitDigits
  have hnegative := fun e => (requantize_negative .toEven d.magnitude e).1
  dsimp only
  split
  · rfl
  · split <;> exact hnegative _

/-- **The absolute value of a decimal** is that of its number, to 28 significant digits. -/
theorem abs_number (d : Decimal) : d.abs.toRat = toSignificant significantDigits |d.toRat| := by
  rw [abs, limitDigits_toRat (by decide) rfl, magnitude_toRat]

/-- An absolute value is exact when all digits behind the 28th are zeros, and only then. -/
theorem abs_eq_iff (d : Decimal) : d.abs.toRat = |d.toRat| ↔ EndsWithin significantDigits d := by
  rw [abs_number, toSignificant_eq_self_iff, endsWithin_iff]

/-- Absolute values have absolute values that are exact. -/
theorem abs_abs_number (d : Decimal) : d.abs.abs.toRat = d.abs.toRat := by
  have hends : EndsWithin significantDigits d.abs :=
    endsWithin_of_length_le (length_limitDigits_le (by decide) rfl)
  rw [(abs_eq_iff d.abs).mpr hends, abs_toRat_of_unsigned (abs_negative d)]

/-- Without their signs, decimals agree as their absolute values do. -/
theorem agree_absolute (expected actual : Decimal) (scale : Option Int) (margin : Option Decimal) :
    agree expected actual scale margin true = agree expected.abs actual.abs scale margin false := by
  cases scale <;> rfl

/-- **Agreement without signs.** Two decimals agree without their signs exactly when their absolute
    values do, each to 28 significant digits with halves to the even digit. Where the digits of both
    end within these, that is the agreement of their exact absolute values. A number whose digits go
    further agrees with the number that is left of it, although its absolute value is another one. -/
theorem agree_unsigned (expected actual : Decimal) (scale : Option Int) (margin : Option Decimal) :
    (agree expected actual scale margin true = true ↔
      NumbersAgree (margin.map toRat)
        (prepared scale (toSignificant significantDigits |expected.toRat|))
        (prepared scale (toSignificant significantDigits |actual.toRat|))) ∧
    (EndsWithin significantDigits expected → EndsWithin significantDigits actual →
      agree expected actual scale margin true =
        agree expected.magnitude actual.magnitude scale margin false) ∧
    (¬ EndsWithin significantDigits expected →
      agree expected expected.abs none none true = true ∧
      agree expected.magnitude expected.abs.magnitude none none false = false) := by
  refine ⟨?_, ?_, ?_⟩
  · rw [agree_absolute, agree_iff, abs_number, abs_number]
  · intro hexpected hactual
    rw [agree_absolute, Bool.eq_iff_iff, agree_iff, agree_iff, (abs_eq_iff _).mpr hexpected,
      (abs_eq_iff _).mpr hactual, magnitude_toRat, magnitude_toRat]
  · intro hlonger
    have hinexact := (abs_eq_iff expected).not.mpr hlonger
    constructor
    · rw [agree_absolute, agree_iff]
      exact (abs_abs_number expected).symm
    · rw [Bool.eq_false_iff, ne_eq, agree_iff, magnitude_toRat, magnitude_toRat,
        abs_toRat_of_unsigned (abs_negative expected)]
      exact fun h => hinexact h.symm

/-- Two numbers of 29 digits whose digits end within 28 agree up to a margin, whatever their signs;
    a third one, with a digit at the last place, agrees with what is left of it. -/
theorem agree_unsigned_large :
    agree ⟨true, 10 ^ 28 + 10, 0⟩ ⟨false, 10 ^ 28, 0⟩ none (some ⟨false, 11, 0⟩) true = true ∧
    agree ⟨true, 10 ^ 28 + 6, 0⟩ ⟨false, 10 ^ 27 + 1, 1⟩ none none true = true := by
  have hsmall := agree_unsigned ⟨true, 10 ^ 28 + 10, 0⟩ ⟨false, 10 ^ 28, 0⟩ none (some ⟨false, 11, 0⟩)
  have hlarge := agree_unsigned ⟨true, 10 ^ 28 + 6, 0⟩ ⟨false, 0, 0⟩ none none
  have hrounded : abs ⟨true, 10 ^ 28 + 6, 0⟩ = ⟨false, 10 ^ 27 + 1, 1⟩ := by decide
  constructor
  · rw [hsmall.2.1 (by decide) (by decide)]
    decide
  · rw [← hrounded]
    exact (hlarge.2.2 (by decide)).1

/-- Two numbers that differ in their 29th digit agree without their signs, although their absolute
    values do not agree. -/
theorem agree_loses_digits :
    agree ⟨false, 10 ^ 28 + 1, 0⟩ ⟨false, 10 ^ 28, 0⟩ none none true = true ∧
    agree (magnitude ⟨false, 10 ^ 28 + 1, 0⟩) (magnitude ⟨false, 10 ^ 28, 0⟩) none none false =
      false := by decide

end Reconcile.Decimal
