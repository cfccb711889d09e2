import Reconcile.Proofs.Decimal.Agreement
import Reconcile.Proofs.Decimal.WrittenDecimals

/-!
# Correct rounding

Rounding a decimal to a number of places gives the multiple of the unit that is nearest to it, the
one further away from zero when two are equally near, written in this unit and with the sign of what
was rounded. Only one decimal is all of that, so the laws of rounding follow from it without looking
at digits again.

* `RoundsTo`: what rounding has to give;
* `nearest_away_iff`: a nearest number with ties away from zero, as an interval;
* **`roundsTo_iff`**: what rounding has to give is what it gives, and nothing else;
* `roundHalfUp_idem`, `roundHalfUp_neg`, `roundHalfUp_mono`: rounding twice, below zero, and in
  order;
* `length_roundHalfUp_le`: how many digits are left;
* **`roundHalfUp_correct`**: all of it, for decimals and scales within the limits.
-/

namespace Reconcile.Decimal

variable {v w r : Decimal} {places : Int}

/-! ## 1. What rounding has to give -/

/-- A decimal is what another one is rounded to: it is written in the unit of the places and with
    the same sign, it is no more than half a unit away, and when it is half a unit away it lies
    further from zero. -/
structure RoundsTo (v : Decimal) (places : Int) (r : Decimal) : Prop where
  exponent : r.exponent = -places
  negative : r.negative = v.negative
  near : |r.toRat - v.toRat| ≤ (10 : ℚ) ^ (-places) / 2
  away : |r.toRat - v.toRat| = (10 : ℚ) ^ (-places) / 2 → |v.toRat| < |r.toRat|

/-- A number has the sign that is written in front of its size. -/
theorem toRat_eq_signed_abs (d : Decimal) :
    d.toRat = if d.negative then -|d.toRat| else |d.toRat| := by
  rw [abs_toRat]
  unfold toRat signed
  cases d.negative <;> simp

/-- Numbers of one sign are as far apart as their sizes. -/
theorem abs_sub_of_negative_eq (h : r.negative = v.negative) :
    |r.toRat - v.toRat| = |(|r.toRat| - |v.toRat|)| := by
  rw [r.toRat_eq_signed_abs, v.toRat_eq_signed_abs, h]
  cases v.negative with
  | true =>
    simp only [if_true, abs_neg, abs_abs]
    rw [neg_sub_neg, abs_sub_comm]
  | false => simp only [Bool.false_eq_true, if_false, abs_abs]

/-- No further away than half a unit, and above in a tie: more than half a unit below is excluded,
    and so is exactly half a unit below. -/
theorem nearest_away_iff {x y half : ℚ} (hpos : 0 < half) :
    (|y - x| ≤ half ∧ (|y - x| = half → x < y)) ↔ x - half < y ∧ y ≤ x + half := by
  rw [abs_le]
  constructor
  · rintro ⟨⟨hlow, hhigh⟩, haway⟩
    refine ⟨lt_of_le_of_ne (by linarith) fun htie => ?_, by linarith⟩
    have hdistance : |y - x| = half := by
      rw [← htie, sub_sub_cancel_left, abs_neg, abs_of_pos hpos]
    have := haway hdistance
    linarith
  · rintro ⟨hlow, hhigh⟩
    refine ⟨⟨by linarith, by linarith⟩, fun htie => ?_⟩
    rcases (abs_eq hpos.le).mp htie with h | h
    · linarith
    · linarith

/-- In the unit of the places and with the same sign, the nearest decimal with ties away from zero
    is the one whose coefficient is the size in units, rounded half up. -/
theorem coefficient_iff (hexponent : r.exponent = -places) (hnegative : r.negative = v.negative) :
    (r.coefficient : ℤ) = ⌊|v.toRat| * (10 : ℚ) ^ places + 1 / 2⌋ ↔
      |r.toRat - v.toRat| ≤ (10 : ℚ) ^ (-places) / 2 ∧
        (|r.toRat - v.toRat| = (10 : ℚ) ^ (-places) / 2 → |v.toRat| < |r.toRat|) := by
  have hunit : (0 : ℚ) < (10 : ℚ) ^ (-places) := pow_ten_pos _
  have habs : |r.toRat| = r.coefficient * (10 : ℚ) ^ (-places) := by rw [abs_toRat, hexponent]
  have hsize : |v.toRat| = |v.toRat| * (10 : ℚ) ^ places * (10 : ℚ) ^ (-places) := by
    rw [mul_assoc, ← zpow_add₀ (by norm_num), add_neg_cancel, zpow_zero, mul_one]
  rw [abs_sub_of_negative_eq hnegative, nearest_away_iff (half_pos hunit), eq_comm,
    Int.floor_eq_iff, habs]
  generalize |v.toRat| * (10 : ℚ) ^ places = x at hsize
  rw [hsize]
  generalize (10 : ℚ) ^ (-places) = unit at hunit
  rw [← mul_le_mul_iff_of_pos_right hunit, ← mul_lt_mul_iff_of_pos_right hunit, and_comm]
  push_cast
  constructor
  · rintro ⟨hlow, hhigh⟩
    exact ⟨by linarith, by linarith⟩
  · rintro ⟨hlow, hhigh⟩
    exact ⟨by linarith, by linarith⟩

/-- The coefficient of a rounded decimal: its size in units, rounded half up. -/
theorem roundHalfUp_coefficient (v : Decimal) (places : Int) :
    ((v.roundHalfUp places).coefficient : ℤ) = ⌊|v.toRat| * (10 : ℚ) ^ places + 1 / 2⌋ := by
  have h := requantize_coefficient v (-places)
  rwa [neg_neg] at h

/-- **Rounding gives what it has to give**, and there is nothing else that it could give. -/
theorem roundsTo_iff : RoundsTo v places r ↔ r = v.roundHalfUp places := by
  obtain ⟨hnegative, hexponent⟩ := requantize_negative .up v (-places)
  constructor
  · intro h
    have hcoefficient : (r.coefficient : ℤ) = (v.roundHalfUp places).coefficient := by
      rw [roundHalfUp_coefficient, coefficient_iff h.exponent h.negative]
      exact ⟨h.near, h.away⟩
    calc r = ⟨r.negative, r.coefficient, r.exponent⟩ := rfl
      _ = ⟨(v.roundHalfUp places).negative, (v.roundHalfUp places).coefficient,
            (v.roundHalfUp places).exponent⟩ := by
          rw [h.negative, h.exponent, Int.natCast_inj.mp hcoefficient]
          exact congrArg₂ (fun s e => Decimal.mk s _ e) hnegative.symm hexponent.symm
      _ = v.roundHalfUp places := rfl
  · rintro rfl
    obtain ⟨hnear, haway⟩ :=
      (coefficient_iff hexponent hnegative).mp (roundHalfUp_coefficient v places)
    exact ⟨hexponent, hnegative, hnear, haway⟩

theorem roundsTo_roundHalfUp (v : Decimal) (places : Int) :
    RoundsTo v places (v.roundHalfUp places) := roundsTo_iff.mpr rfl

/-! ## 2. Laws -/

/-- What is written in the unit of the places already is rounded to itself. -/
theorem roundsTo_self (h : r.exponent = -places) : RoundsTo r places r where
  exponent := h
  negative := rfl
  near := by
    rw [sub_self, abs_zero]
    exact (half_pos (pow_ten_pos _)).le
  away := by
    rw [sub_self, abs_zero]
    exact fun htie => absurd htie (half_pos (pow_ten_pos _)).ne

/-- Rounding a second time changes nothing. -/
theorem roundHalfUp_idem (v : Decimal) (places : Int) :
    (v.roundHalfUp places).roundHalfUp places = v.roundHalfUp places :=
  (roundsTo_iff.mp (roundsTo_self (roundsTo_roundHalfUp v places).exponent)).symm

/-- What a decimal is rounded to with the other sign is the same with the other sign. -/
theorem RoundsTo.neg (h : RoundsTo v places r) : RoundsTo v.neg places r.neg := by
  have hdistance : |r.neg.toRat - v.neg.toRat| = |r.toRat - v.toRat| := by
    rw [neg_toRat, neg_toRat, neg_sub_neg, abs_sub_comm]
  refine ⟨h.exponent, congrArg (!·) h.negative, hdistance ▸ h.near, ?_⟩
  rw [hdistance, neg_toRat, neg_toRat, abs_neg, abs_neg]
  exact h.away

/-- Rounding treats both sides of zero alike. -/
theorem roundHalfUp_neg (v : Decimal) (places : Int) :
    v.neg.roundHalfUp places = (v.roundHalfUp places).neg :=
  (roundsTo_iff.mp (roundsTo_roundHalfUp v places).neg).symm

/-- The smaller of two numbers is rounded to the smaller multiple: if not, the two multiples would
    be a unit apart or more, and together no more than a unit away from their numbers. -/
theorem RoundsTo.le_of_lt {r' : Decimal} (h : RoundsTo v places r) (h' : RoundsTo w places r')
    (hlt : v.toRat < w.toRat) : r.toRat ≤ r'.toRat := by
  by_contra hgt
  have hunit : (0 : ℚ) < (10 : ℚ) ^ (-places) := pow_ten_pos _
  have hr : r.toRat = r.signed * (10 : ℚ) ^ (-places) := by rw [toRat, h.exponent]
  have hr' : r'.toRat = r'.signed * (10 : ℚ) ^ (-places) := by rw [toRat, h'.exponent]
  have happart : r'.toRat + (10 : ℚ) ^ (-places) ≤ r.toRat := by
    rw [not_le, hr, hr', mul_lt_mul_iff_of_pos_right hunit, Int.cast_lt] at hgt
    have hnext : (r'.signed : ℚ) + 1 ≤ r.signed := by exact_mod_cast hgt
    calc r'.toRat + (10 : ℚ) ^ (-places) = (r'.signed + 1) * (10 : ℚ) ^ (-places) := by
          rw [hr', add_mul, one_mul]
      _ ≤ r.signed * (10 : ℚ) ^ (-places) := mul_le_mul_of_nonneg_right hnext hunit.le
      _ = r.toRat := hr.symm
  have hbelow := (abs_le.mp h.near).2
  have habove := (abs_le.mp h'.near).1
  linarith

/-- Rounding keeps the order of numbers. -/
theorem roundHalfUp_mono (places : Int) (h : v.toRat ≤ w.toRat) :
    (v.roundHalfUp places).toRat ≤ (w.roundHalfUp places).toRat := by
  rcases h.eq_or_lt with heq | hlt
  · rw [roundHalfUp_toRat, roundHalfUp_toRat, heq]
  · exact (roundsTo_roundHalfUp v places).le_of_lt (roundsTo_roundHalfUp w places) hlt

/-! ## 3. Size -/

/-- A rounded decimal has one digit at most in front of the leading digit that it had, however many
    were behind. -/
theorem length_roundHalfUp_le {count : Nat} (hcount : 0 < count)
    (h : v.adjusted + places + 2 ≤ count) : (v.roundHalfUp places).digits.length ≤ count := by
  have hten : (10 : ℚ) ≠ 0 := by norm_num
  rw [length_digits_le_iff _ hcount]
  have hsize : |v.toRat| * (10 : ℚ) ^ places < (10 : ℚ) ^ (count - 1) :=
    calc |v.toRat| * (10 : ℚ) ^ places
        < (10 : ℚ) ^ (v.adjusted + 1) * (10 : ℚ) ^ places :=
          mul_lt_mul_of_pos_right v.magnitude_lt (pow_ten_pos _)
      _ = (10 : ℚ) ^ (v.adjusted + 1 + places) := (zpow_add₀ hten _ _).symm
      _ ≤ (10 : ℚ) ^ ((count - 1 : Nat) : ℤ) := zpow_le_zpow_right₀ (by norm_num) (by omega)
      _ = (10 : ℚ) ^ (count - 1) := zpow_natCast _ _
  have hone : (1 : ℚ) ≤ (10 : ℚ) ^ (count - 1) := one_le_pow₀ (by norm_num)
  have hpow : (10 : ℚ) ^ count = (10 : ℚ) ^ (count - 1) * 10 := by
    rw [← pow_succ, Nat.sub_add_cancel hcount]
  have hfloor : ((v.roundHalfUp places).coefficient : ℚ) ≤
      |v.toRat| * (10 : ℚ) ^ places + 1 / 2 := by
    have hle := Int.floor_le (|v.toRat| * (10 : ℚ) ^ places + 1 / 2)
    rw [← roundHalfUp_coefficient] at hle
    exact_mod_cast hle
  have hlt : ((v.roundHalfUp places).coefficient : ℚ) < (10 : ℚ) ^ count := by linarith
  exact_mod_cast hlt

/-! ## 4. Rounding -/

/-- **Rounding is correct.** Let a decimal be one that is read from a text, and the places within
    the limits. It is rounded to the one decimal that is written in the unit of the places, has its
    sign, is no more than half a unit away and lies further from zero in a tie: a multiple of the
    unit, with a bounded number of digits. Rounding a second time changes nothing, the other sign
    gives the other sign, and the order of numbers is kept. -/
theorem roundHalfUp_correct {t : String} (hv : read? t = some v) (hplaces : |places| ≤ 1000) :
    (∀ r, RoundsTo v places r ↔ r = v.roundHalfUp places) ∧
    (∃ n : ℤ, (v.roundHalfUp places).toRat = n * (10 : ℚ) ^ (-places)) ∧
    (v.roundHalfUp places).digits.length ≤ 2002 ∧
    (v.roundHalfUp places).roundHalfUp places = v.roundHalfUp places ∧
    v.neg.roundHalfUp places = (v.roundHalfUp places).neg ∧
    ∀ w : Decimal, v.le w = true → (v.roundHalfUp places).le (w.roundHalfUp places) = true := by
  obtain ⟨_, hadjusted⟩ := read?_iff.mp hv
  refine ⟨fun r => roundsTo_iff, ⟨(v.roundHalfUp places).signed, ?_⟩, ?_, roundHalfUp_idem v places,
    roundHalfUp_neg v places, fun w hle => ?_⟩
  · rw [toRat, (roundsTo_roundHalfUp v places).exponent]
  · refine length_roundHalfUp_le (by decide) ?_
    have hupper := (abs_le.mp hadjusted).2
    have hscale := (abs_le.mp hplaces).2
    omega
  · exact le_iff.mpr (roundHalfUp_mono places (le_iff.mp hle))

/-- A number below zero that is smaller than the unit and half way to it; one that is a little
    nearer to zero is rounded to zero, which keeps its minus. -/
theorem roundHalfUp_correct_half_way :
    (read? "-5e999" = some ⟨true, 5, 999⟩ ∧ |(-1000 : Int)| ≤ 1000) ∧
    RoundsTo ⟨true, 5, 999⟩ (-1000) ⟨true, 1, 1000⟩ ∧
    roundHalfUp ⟨false, 5, 999⟩ (-1000) = neg ⟨true, 1, 1000⟩ ∧
    roundHalfUp ⟨true, 49, 998⟩ (-1000) = ⟨true, 0, 1000⟩ ∧
    le ⟨true, 1, 1000⟩ ⟨true, 0, 1000⟩ = true := by
  have hread : read? "-5e999" = some ⟨true, 5, 999⟩ := by decide +kernel
  have hplaces : |(-1000 : Int)| ≤ 1000 := by decide
  have htie : roundHalfUp ⟨true, 5, 999⟩ (-1000) = ⟨true, 1, 1000⟩ := by decide
  have hzero : roundHalfUp ⟨true, 49, 998⟩ (-1000) = ⟨true, 0, 1000⟩ := by decide
  obtain ⟨hrounds, _, _, _, hneg, hmono⟩ := roundHalfUp_correct hread hplaces
  have hle := hmono ⟨true, 49, 998⟩ (by decide)
  rw [htie] at hneg
  rw [htie, hzero] at hle
  exact ⟨⟨hread, hplaces⟩, (hrounds _).mpr htie.symm, hneg, hzero, hle⟩

end Reconcile.Decimal
