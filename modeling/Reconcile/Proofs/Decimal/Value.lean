import Mathlib.Algebra.Order.Field.Power
import Mathlib.Algebra.Order.Field.Rat
import Mathlib.Order.Compare
import Mathlib.Tactic.Linarith
import Mathlib.Tactic.NormNum
import Mathlib.Tactic.Positivity
import Mathlib.Tactic.Ring
import Reconcile.Decimal.Rounding

/-!
# The number a decimal denotes

A decimal is one way of writing a rational number. This module reads the operations on decimals as
operations on the numbers they denote:

* `add_toRat`, `neg_toRat`, `distance_toRat`: sums, negations and distances are exact;
* **`compares_toRat`**: the order of decimals is the order of their numbers, although it is decided
  by signs and leading exponents first;
* `same_iff`, `le_iff`, `lt_iff`, `within_iff`: the tests built on it.
-/

namespace Reconcile.Decimal

/-! ## 1. The number -/

/-- The number in front of the power of ten, with its sign. -/
def signed (d : Decimal) : Int := if d.negative then -d.coefficient else d.coefficient

/-- The number that a decimal denotes. -/
def toRat (d : Decimal) : ℚ := d.signed * (10 : ℚ) ^ d.exponent

theorem pow_ten_pos (e : Int) : (0 : ℚ) < (10 : ℚ) ^ e := zpow_pos (by norm_num) e

/-- A number in units of a finer power of ten. -/
theorem toRat_eq_scaledTo (d : Decimal) {e : Int} (h : e ≤ d.exponent) :
    d.toRat = d.scaledTo e * (10 : ℚ) ^ e := by
  have hten : (10 : ℚ) ≠ 0 := by norm_num
  have hsplit : (10 : ℚ) ^ d.exponent = (10 : ℚ) ^ (d.exponent - e).toNat * (10 : ℚ) ^ e := by
    rw [← zpow_natCast, Int.toNat_of_nonneg (by omega), ← zpow_add₀ hten, Int.sub_add_cancel]
  unfold toRat signed scaledTo
  rw [hsplit]
  cases d.negative with
  | true => simp; ring
  | false => simp; ring

@[simp] theorem ofInt_toRat (n : Int) : (ofInt n).toRat = n := by
  unfold toRat signed ofInt
  by_cases h : n < 0
  · simp [h, abs_of_neg h]
  · simp [h, abs_of_nonneg (not_lt.mp h)]

@[simp] theorem neg_toRat (d : Decimal) : d.neg.toRat = -d.toRat := by
  unfold toRat signed neg
  cases d.negative <;> simp

theorem magnitude_toRat (d : Decimal) : d.magnitude.toRat = |d.toRat| := by
  unfold toRat
  rw [abs_mul, abs_of_pos (pow_ten_pos d.exponent), ← Int.cast_abs]
  unfold signed magnitude
  cases d.negative <;> simp

theorem add_toRat (a b : Decimal) : (a.add b).toRat = a.toRat + b.toRat := by
  have ha := a.toRat_eq_scaledTo (min_le_left a.exponent b.exponent)
  have hb := b.toRat_eq_scaledTo (min_le_right a.exponent b.exponent)
  rw [ha, hb, ← add_mul, ← Int.cast_add]
  have hsigned : (a.add b).signed = a.scaledTo (min a.exponent b.exponent) +
      b.scaledTo (min a.exponent b.exponent) := by
    unfold signed add
    simp only [decide_eq_true_eq]
    split <;> omega
  unfold toRat
  rw [hsigned]
  rfl

theorem sub_toRat (a b : Decimal) : (a.sub b).toRat = a.toRat - b.toRat := by
  rw [sub, add_toRat, neg_toRat, sub_eq_add_neg]

/-- **The distance of two decimals is the distance of their numbers.** -/
theorem distance_toRat (a b : Decimal) : (a.distance b).toRat = |a.toRat - b.toRat| := by
  rw [distance, magnitude_toRat, sub_toRat]

/-! ## 2. Sign and size -/

theorem toRat_eq_zero_iff (d : Decimal) : d.toRat = 0 ↔ d.isZero = true := by
  rw [toRat, mul_eq_zero_iff_right (pow_ten_pos _).ne', Int.cast_eq_zero]
  unfold signed isZero
  cases d.negative <;> simp

/-- A number other than zero has the sign that is written. -/
theorem toRat_neg_iff {d : Decimal} (h : d.isZero = false) : d.toRat < 0 ↔ d.negative = true := by
  have hcoeff : (0 : ℚ) < d.coefficient := by
    simp only [isZero, beq_eq_false_iff_ne] at h
    exact_mod_cast Nat.pos_of_ne_zero h
  have hpos : 0 < (d.coefficient : ℚ) * (10 : ℚ) ^ d.exponent := mul_pos hcoeff (pow_ten_pos _)
  unfold toRat signed
  cases d.negative with
  | true => simp only [if_true, Int.cast_neg, Int.cast_natCast, iff_true]; linarith
  | false => simp only [Bool.false_eq_true, if_false, Int.cast_natCast, iff_false]; linarith

/-- A number is negative when there is a minus before something else than zero. -/
theorem toRat_lt_zero_iff (d : Decimal) : d.toRat < 0 ↔ (d.negative && !d.isZero) = true := by
  cases h : d.isZero with
  | true => simp [(toRat_eq_zero_iff d).mpr h]
  | false => simp [toRat_neg_iff h]

theorem sign_eq (d : Decimal) : d.sign = if d.toRat < 0 then -1 else if d.toRat = 0 then 0 else 1 := by
  unfold sign
  cases h : d.isZero with
  | true => simp [(toRat_eq_zero_iff d).mpr h]
  | false =>
    have hne : d.toRat ≠ 0 := fun e => by rw [toRat_eq_zero_iff, h] at e; cases e
    simp [toRat_neg_iff h, hne]

/-- A smaller sign is a smaller number. -/
theorem toRat_lt_of_sign_lt {a b : Decimal} (h : a.sign < b.sign) : a.toRat < b.toRat := by
  rw [sign_eq, sign_eq] at h
  by_contra hle
  split_ifs at h <;> first | omega | grind

theorem length_digits_le_iff (d : Decimal) {k : Nat} (h : 0 < k) :
    d.digits.length ≤ k ↔ d.coefficient < 10 ^ k := Nat.length_toDigits_le_iff (by omega) h

/-- A number is less than the power of ten above its leading digit. -/
theorem magnitude_lt (d : Decimal) : |d.toRat| < (10 : ℚ) ^ (d.adjusted + 1) := by
  have hlen : d.coefficient < 10 ^ d.digits.length :=
    (d.length_digits_le_iff Nat.length_toDigits_pos).mp le_rfl
  have hcast : (d.coefficient : ℚ) < (10 : ℚ) ^ (d.digits.length : Int) := by
    rw [zpow_natCast]
    exact_mod_cast hlen
  have hexp : d.adjusted + 1 = (d.digits.length : Int) + d.exponent := by unfold adjusted; omega
  rw [hexp, zpow_add₀ (by norm_num), ← magnitude_toRat]
  exact mul_lt_mul_of_pos_right (by simpa [signed, magnitude] using hcast) (pow_ten_pos _)

/-- A number other than zero has its leading digit where it is said to be. -/
theorem le_magnitude {d : Decimal} (h : d.isZero = false) :
    (10 : ℚ) ^ d.adjusted ≤ |d.toRat| := by
  have hlen : 10 ^ (d.digits.length - 1) ≤ d.coefficient := by
    simp only [isZero, beq_eq_false_iff_ne] at h
    rcases Nat.eq_zero_or_pos (d.digits.length - 1) with h0 | hpos
    · rw [h0]; omega
    · have := (d.length_digits_le_iff hpos).not.mp (by omega)
      omega
  have hone : 1 ≤ d.digits.length := Nat.length_toDigits_pos
  have hexp : d.adjusted = ((d.digits.length - 1 : Nat) : Int) + d.exponent := by
    unfold adjusted; omega
  have hcast : (10 : ℚ) ^ ((d.digits.length - 1 : Nat) : Int) ≤ d.coefficient := by
    rw [zpow_natCast]
    exact_mod_cast hlen
  rw [hexp, zpow_add₀ (by norm_num), ← magnitude_toRat]
  exact mul_le_mul_of_nonneg_right (by simpa [signed, magnitude] using hcast) (pow_ten_pos _).le

/-- Of two numbers the one with the smaller leading exponent is the smaller in size. -/
theorem magnitude_lt_of_adjusted_lt {a b : Decimal} (hb : b.isZero = false)
    (h : a.adjusted < b.adjusted) : |a.toRat| < |b.toRat| :=
  calc |a.toRat| < (10 : ℚ) ^ (a.adjusted + 1) := a.magnitude_lt
    _ ≤ (10 : ℚ) ^ b.adjusted := zpow_le_zpow_right₀ (by norm_num) (by omega)
    _ ≤ |b.toRat| := le_magnitude hb

/-! ## 3. Order -/

/-- An order of integers carries over to numbers that are ordered alike. -/
theorem compares_of_int {m n : Int} {x y : ℚ} (lt : m < n → x < y) (eq : m = n → x = y)
    (gt : n < m → y < x) : (Ord.compare m n).Compares x y := by
  rcases lt_trichotomy m n with h | h | h
  · rw [compare_lt_iff_lt.mpr h]; exact lt h
  · rw [compare_eq_iff_eq.mpr h]; exact eq h
  · rw [compare_gt_iff_gt.mpr h]; exact gt h

/-- Numbers of one sign other than zero are ordered by their leading exponents where these differ:
    the other way round below zero. -/
theorem compares_adjusted {a b : Decimal} (ha : a.isZero = false) (hb : b.isZero = false)
    (hsign : a.negative = b.negative) (hne : a.adjusted ≠ b.adjusted) :
    (if a.negative then Ord.compare b.adjusted a.adjusted
      else Ord.compare a.adjusted b.adjusted).Compares a.toRat b.toRat := by
  have hlt := fun h => magnitude_lt_of_adjusted_lt (a := a) hb h
  have hgt := fun h => magnitude_lt_of_adjusted_lt (a := b) ha h
  have hna := toRat_neg_iff ha
  have hnb := toRat_neg_iff hb
  cases hneg : a.negative with
  | true =>
    rw [abs_of_neg (hna.mpr hneg), abs_of_neg (hnb.mpr (hsign ▸ hneg))] at hlt hgt
    exact compares_of_int (fun h => neg_lt_neg_iff.mp (hgt h)) (fun h => absurd h.symm hne)
      (fun h => neg_lt_neg_iff.mp (hlt h))
  | false =>
    have hpa : 0 ≤ a.toRat := not_lt.mp fun h => by rw [hna, hneg] at h; cases h
    have hpb : 0 ≤ b.toRat := not_lt.mp fun h => by rw [hnb, ← hsign, hneg] at h; cases h
    rw [abs_of_nonneg hpa, abs_of_nonneg hpb] at hlt hgt
    exact compares_of_int hlt (fun h => absurd h hne) hgt

theorem compares_scaledTo (a b : Decimal) :
    (Ord.compare (a.scaledTo (min a.exponent b.exponent))
      (b.scaledTo (min a.exponent b.exponent))).Compares a.toRat b.toRat := by
  have hpos := pow_ten_pos (min a.exponent b.exponent)
  rw [a.toRat_eq_scaledTo (min_le_left _ _), b.toRat_eq_scaledTo (min_le_right _ _)]
  refine compares_of_int (fun h => ?_) (fun h => by rw [h]) (fun h => ?_)
  · exact mul_lt_mul_of_pos_right (Int.cast_lt.mpr h) hpos
  · exact mul_lt_mul_of_pos_right (Int.cast_lt.mpr h) hpos

/-- **Decimals are ordered as the numbers they denote.** -/
theorem compares_toRat (a b : Decimal) : (a.compare b).Compares a.toRat b.toRat := by
  unfold compare
  by_cases hsign : a.sign = b.sign
  · rw [if_neg (not_not.mpr hsign)]
    cases hza : a.isZero with
    | true =>
      have hzb : b.isZero = true := by
        rw [sign, hza, if_pos rfl] at hsign
        unfold sign at hsign
        split_ifs at hsign with h1 <;> simp_all
      exact ((toRat_eq_zero_iff a).mpr hza).trans ((toRat_eq_zero_iff b).mpr hzb).symm
    | false =>
      have hzb : b.isZero = false := by
        unfold sign at hsign
        rw [hza] at hsign
        split_ifs at hsign <;> simp_all
      have hneg : a.negative = b.negative := by
        unfold sign at hsign
        rw [hza, hzb] at hsign
        cases ha : a.negative <;> cases hb : b.negative <;> simp_all
      by_cases hadj : a.adjusted = b.adjusted
      · simpa [hadj] using compares_scaledTo a b
      · simpa [hadj] using compares_adjusted hza hzb hneg hadj
  · rw [if_pos hsign]
    exact compares_of_int toRat_lt_of_sign_lt (fun h => absurd h hsign) toRat_lt_of_sign_lt

/-- Two decimals are the same when their numbers are equal. -/
theorem same_iff {a b : Decimal} : a.same b = true ↔ a.toRat = b.toRat := by
  rw [same, beq_iff_eq, (compares_toRat a b).eq_eq]

theorem le_iff {a b : Decimal} : a.le b = true ↔ a.toRat ≤ b.toRat := by
  rw [le, bne_iff_ne, (compares_toRat a b).ne_gt]

theorem lt_iff {a b : Decimal} : a.lt b = true ↔ a.toRat < b.toRat := by
  rw [lt, beq_iff_eq, (compares_toRat a b).eq_lt]

/-- **The tolerant comparison looks at the distance of the numbers.** -/
theorem within_iff {a b p : Decimal} :
    within a b p = true ↔ |a.toRat - b.toRat| ≤ p.toRat := by
  rw [within, le_iff, distance_toRat]

end Reconcile.Decimal
