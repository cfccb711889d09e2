import Mathlib.Algebra.Order.Floor.Ring
import Mathlib.Data.Rat.Floor
import Mathlib.Data.Sign.Basic
import Mathlib.Tactic.FieldSimp
import Reconcile.Proofs.Decimal.Value

/-!
# Rounding and agreement, as numbers

Two decimals are compared after rounding both to a number of places, and up to a margin. Each step
is exact on the numbers that the decimals denote, however these are written and however far apart
they are.

* `nearest`: the multiple of a power of ten next to a number, said without digits;
* `roundQuotient_up`: a quotient rounded half up, by cross-multiplication;
* **`roundHalfUp_toRat`**: rounding a decimal rounds its number;
* **`agree_exact`**: agreement of two decimals, as numbers.
-/

namespace Reconcile.Decimal

/-! ## 1. Rounding -/

/-- The multiple of `10 ^ -places` that is nearest to a number; of two that are equally near, the one
    further away from zero. -/
def nearest (places : Int) (x : ℚ) : ℚ :=
  SignType.sign x * ⌊|x| * (10 : ℚ) ^ places + 1 / 2⌋ * (10 : ℚ) ^ (-places)

/-- A quotient that is rounded half up is at most one half above it, and less than one half below. -/
theorem roundQuotient_up {n d : Nat} (hd : 0 < d) :
    2 * (d * roundQuotient .up n d) ≤ 2 * n + d ∧
      2 * n + d < 2 * (d * roundQuotient .up n d) + 2 * d := by
  have hsplit : d * (n / d) + n % d = n := Nat.div_add_mod n d
  have hless : n % d < d := Nat.mod_lt n hd
  have hnext : d * (n / d + 1) = d * (n / d) + d := Nat.mul_succ d (n / d)
  unfold roundQuotient
  dsimp only
  rcases lt_trichotomy (2 * (n % d)) d with h | h | h
  · rw [compare_lt_iff_lt.mpr h]
    dsimp only
    omega
  · rw [compare_eq_iff_eq.mpr h]
    dsimp only
    rw [hnext]
    omega
  · rw [compare_gt_iff_gt.mpr h]
    dsimp only
    rw [hnext]
    omega

theorem requantize_negative (half : Half) (d : Decimal) (e : Int) :
    (requantize half d e).negative = d.negative ∧ (requantize half d e).exponent = e := by
  unfold requantize
  split <;> exact ⟨rfl, rfl⟩

theorem abs_toRat (d : Decimal) : |d.toRat| = d.coefficient * (10 : ℚ) ^ d.exponent := by
  rw [← magnitude_toRat]
  simp [toRat, signed, magnitude]

/-- **The digits that rounding leaves** are those of the nearest multiple of the unit. -/
theorem requantize_coefficient (d : Decimal) (e : Int) :
    ((requantize .up d e).coefficient : Int) = ⌊|d.toRat| * (10 : ℚ) ^ (-e) + 1 / 2⌋ := by
  have hten : (10 : ℚ) ≠ 0 := by norm_num
  have hscaled : |d.toRat| * (10 : ℚ) ^ (-e) = d.coefficient * (10 : ℚ) ^ (d.exponent - e) := by
    rw [abs_toRat, mul_assoc, ← zpow_add₀ hten, sub_eq_add_neg]
  rw [hscaled, eq_comm, Int.floor_eq_iff]
  unfold requantize
  by_cases h : e ≤ d.exponent
  · -- the unit is no coarser than the last digit: zeros are added, and nothing is lost
    have hpow : (10 : ℚ) ^ (d.exponent - e) = ((Nat.pow 10 (d.exponent - e).toNat : Nat) : ℚ) := by
      have hexp : ((d.exponent - e).toNat : Int) = d.exponent - e := Int.toNat_of_nonneg (by omega)
      rw [← hexp, zpow_natCast, Int.toNat_natCast]
      exact (Nat.cast_pow 10 _).symm
    rw [if_pos h, hpow, ← Nat.cast_mul]
    constructor
    · push_cast
      linarith
    · push_cast
      linarith
  · have hpos : 0 < Nat.pow 10 (e - d.exponent).toNat := Nat.pow_pos (by omega)
    have hpow : (10 : ℚ) ^ (d.exponent - e) =
        ((Nat.pow 10 (e - d.exponent).toNat : Nat) : ℚ)⁻¹ := by
      have hexp : ((e - d.exponent).toNat : Int) = e - d.exponent := Int.toNat_of_nonneg (by omega)
      rw [← neg_sub, zpow_neg, ← hexp, zpow_natCast, Int.toNat_natCast]
      exact congrArg _ (Nat.cast_pow 10 _).symm
    rw [if_neg h, hpow]
    generalize Nat.pow 10 (e - d.exponent).toNat = unit at hpos ⊢
    obtain ⟨hlow, hhigh⟩ := roundQuotient_up (n := d.coefficient) hpos
    have hunit : (0 : ℚ) < unit := Nat.cast_pos.mpr hpos
    have hlow' : (2 : ℚ) * (unit * roundQuotient .up d.coefficient unit) ≤
        2 * d.coefficient + unit := by exact_mod_cast hlow
    have hhigh' : (2 : ℚ) * d.coefficient + unit <
        2 * (unit * roundQuotient .up d.coefficient unit) + 2 * unit := by exact_mod_cast hhigh
    have hquotient : (d.coefficient : ℚ) * (unit : ℚ)⁻¹ * unit = d.coefficient := by
      rw [mul_assoc, inv_mul_cancel₀ hunit.ne', mul_one]
    constructor
    · refine le_of_mul_le_mul_right ?_ hunit
      push_cast
      rw [add_mul, hquotient]
      linarith
    · refine lt_of_mul_lt_mul_right ?_ hunit.le
      push_cast
      rw [add_mul, add_mul, hquotient]
      linarith

/-- **Rounding a decimal rounds its number.** -/
theorem roundHalfUp_toRat (d : Decimal) (places : Int) :
    (d.roundHalfUp places).toRat = nearest places d.toRat := by
  obtain ⟨hnegative, hexponent⟩ := requantize_negative .up d (-places)
  have hdigits := requantize_coefficient d (-places)
  rw [neg_neg] at hdigits
  have hsigned : ((d.roundHalfUp places).signed : ℚ) =
      SignType.sign d.toRat * ⌊|d.toRat| * (10 : ℚ) ^ places + 1 / 2⌋ := by
    rw [← hdigits]
    unfold signed roundHalfUp
    rw [hnegative]
    cases hzero : d.isZero with
    | true =>
      -- a zero has no digits to round, whatever its sign
      have hrat : d.toRat = 0 := (toRat_eq_zero_iff d).mpr hzero
      have hnone : (requantize .up d (-places)).coefficient = 0 := by
        rw [hrat, abs_zero, zero_mul, zero_add] at hdigits
        have hhalf : ⌊(1 / 2 : ℚ)⌋ = 0 := by norm_num
        rw [hhalf] at hdigits
        exact_mod_cast hdigits
      rw [hrat, hnone, sign_zero]
      split <;> simp
    | false =>
      have hsign := toRat_neg_iff hzero
      cases hneg : d.negative with
      | true =>
        rw [sign_neg (hsign.mpr hneg)]
        simp
      | false =>
        have hne : d.toRat ≠ 0 := fun h => by rw [toRat_eq_zero_iff, hzero] at h; cases h
        have hnotneg : ¬ d.toRat < 0 := fun h => by rw [hsign, hneg] at h; cases h
        rw [sign_pos (lt_of_le_of_ne (not_lt.mp hnotneg) hne.symm)]
        simp
  unfold toRat nearest
  rw [hsigned]
  unfold roundHalfUp
  rw [hexponent]
  rfl

/-! ## 2. Agreement -/

/-- A number as it is compared: rounded to a number of places when there is a scale. -/
def prepared (scale : Option Int) (x : ℚ) : ℚ := scale.elim x fun places => nearest places x

/-- Whether two numbers agree: they are equal, or less than the margin apart when there is one. -/
def NumbersAgree (margin : Option ℚ) (x y : ℚ) : Prop := margin.elim (x = y) fun m => |x - y| < m

theorem numbersAgree_comm {margin : Option ℚ} {x y : ℚ} :
    NumbersAgree margin x y ↔ NumbersAgree margin y x := by
  cases margin with
  | none => exact eq_comm
  | some m =>
    unfold NumbersAgree
    rw [Option.elim_some, Option.elim_some, abs_sub_comm]

/-- A decimal that is rounded when there is a scale, as a number. -/
theorem prepared_toRat (scale : Option Int) (d : Decimal) :
    (scale.elim d d.roundHalfUp).toRat = prepared scale d.toRat := by
  cases scale with
  | none => rfl
  | some places => exact roundHalfUp_toRat d places

/-- Agreement with the signs kept, in steps. -/
theorem agree_signed (expected actual : Decimal) (scale : Option Int) (margin : Option Decimal) :
    agree expected actual scale margin false =
      match margin with
      | none => (scale.elim expected expected.roundHalfUp).same (scale.elim actual actual.roundHalfUp)
      | some m =>
        ((scale.elim expected expected.roundHalfUp).distance
          (scale.elim actual actual.roundHalfUp)).lt m := by
  cases scale <;> rfl

theorem agree_iff (expected actual : Decimal) (scale : Option Int) (margin : Option Decimal) :
    agree expected actual scale margin false = true ↔
      NumbersAgree (margin.map toRat) (prepared scale expected.toRat)
        (prepared scale actual.toRat) := by
  rw [agree_signed]
  cases margin with
  | none =>
    dsimp only
    rw [same_iff, prepared_toRat, prepared_toRat]
    rfl
  | some m =>
    dsimp only
    rw [lt_iff, distance_toRat, prepared_toRat, prepared_toRat]
    rfl

/-- **Agreement is exact.** With their signs kept, two decimals agree exactly when their numbers,
    each rounded to the nearest multiple of the unit when there is a scale, halves away from zero,
    are equal, or less than the margin apart when there is one. Nothing else counts: not which of
    the two is expected, and not how the numbers and the margin are written. -/
theorem agree_exact (expected actual : Decimal) (scale : Option Int) (margin : Option Decimal) :
    (agree expected actual scale margin false = true ↔
      NumbersAgree (margin.map toRat) (prepared scale expected.toRat)
        (prepared scale actual.toRat)) ∧
    agree expected actual scale margin false = agree actual expected scale margin false ∧
    ∀ expected' actual' margin', expected'.toRat = expected.toRat →
      actual'.toRat = actual.toRat → Option.map toRat margin' = margin.map toRat →
      agree expected' actual' scale margin' false = agree expected actual scale margin false := by
  refine ⟨agree_iff expected actual scale margin, ?_, ?_⟩
  · rw [Bool.eq_iff_iff, agree_iff, agree_iff]
    exact numbersAgree_comm
  · intro expected' actual' margin' hexpected hactual hmargin
    rw [Bool.eq_iff_iff, agree_iff, agree_iff, hexpected, hactual, hmargin]

/-- A half below zero goes down at a scale of no places, and the zeros that are written behind it
    make no difference; tens are a coarser unit than any digit of either number. -/
theorem agree_exact_halves :
    agree ⟨true, 250, -2⟩ ⟨true, 34, -1⟩ (some 0) (some ⟨false, 10, -2⟩) false = true ∧
    agree ⟨false, 50, -1⟩ ⟨false, 14, 0⟩ (some (-1)) none false = true := by
  have hsame : toRat ⟨true, 250, -2⟩ = toRat ⟨true, 25, -1⟩ := same_iff.mp (by decide)
  have hmargin : toRat ⟨false, 10, -2⟩ = toRat ⟨false, 1, -1⟩ := same_iff.mp (by decide)
  have hfive : toRat ⟨false, 50, -1⟩ = toRat ⟨false, 5, 0⟩ := same_iff.mp (by decide)
  have hnegative := (agree_exact ⟨true, 25, -1⟩ ⟨true, 34, -1⟩ (some 0) (some ⟨false, 1, -1⟩)).2.2
    ⟨true, 250, -2⟩ ⟨true, 34, -1⟩ (some ⟨false, 10, -2⟩) hsame rfl (congrArg some hmargin)
  have htens := (agree_exact ⟨false, 5, 0⟩ ⟨false, 14, 0⟩ (some (-1)) none).2.2
    ⟨false, 50, -1⟩ ⟨false, 14, 0⟩ none hfive rfl rfl
  exact ⟨hnegative.trans (by decide), htens.trans (by decide)⟩

end Reconcile.Decimal
