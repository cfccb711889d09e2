import Mathlib.Algebra.Order.Ring.Int
import Reconcile.Decimal.Text
import Reconcile.Proofs.Decimal.Grammar

/-!
# Decimals that are written and read back

The written form of a decimal tells its sign, its coefficient and its exponent, in either of its two
notations, so that a decimal of moderate size is read back as it was.

* `digits_toDigits`, `ofDigits_zeros`: the digits of a number, and zeros in front of them;
* `pointed_mantissa`: digits with a point in a given place; `exponentText_exponent`: an exponent;
* **`text_denotes`**: the written form of a decimal denotes it;
* **`read_text`**: a decimal that is written and read back.
-/

namespace Reconcile.Decimal

open Reconcile.Text

/-! ## 1. Digits -/

/-- Plain digits stand for their values. -/
theorem digits_of_isDigit {cs : List Char} (h : ∀ c ∈ cs, c.isDigit = true) :
    Digits cs (cs.map fun c => c.toNat - '0'.toNat) := by
  rw [Digits, List.map_map]
  exact List.map_congr_left fun c hc => digitValue?_of_isDigit (h c hc)

/-- The digits of a number stand for it. -/
theorem digits_toDigits (n : Nat) :
    ∃ ds, Digits (Nat.toDigits 10 n) ds ∧ ofDigits ds = n ∧ ds ≠ [] := by
  refine ⟨_, digits_of_isDigit fun _ => isDigit_of_mem_toDigits n, ?_, ?_⟩
  · rw [ofDigits_digitValues, Nat.ofDigitChars_ten_toDigits]
  · exact fun h => Nat.toDigits_ne_nil (List.map_eq_nil_iff.mp h)

theorem digits_zeros (n : Nat) : Digits (List.replicate n '0') (List.replicate n 0) := by
  rw [Digits, List.map_replicate, List.map_replicate]
  rfl

/-- Zeros in front of digits do not count. -/
theorem ofDigits_zeros (ds : List Nat) :
    ∀ n : Nat, ofDigits (List.replicate n 0 ++ ds) = ofDigits ds
  | 0 => rfl
  | n + 1 => ofDigits_zeros ds n

theorem Digits.take {cs : List Char} {ds : List Nat} (h : Digits cs ds) (n : Nat) :
    Digits (cs.take n) (ds.take n) := by
  rw [Digits, List.map_take, List.map_take, h]

theorem Digits.drop {cs : List Char} {ds : List Nat} (h : Digits cs ds) (n : Nat) :
    Digits (cs.drop n) (ds.drop n) := by
  rw [Digits, List.map_drop, List.map_drop, h]

/-! ## 2. Parts of the written form -/

/-- Digits with a point after some of them, or before all of them with zeros between, are a mantissa
    of the same digits. -/
theorem pointed_mantissa {cs : List Char} {ds : List Nat} (h : Digits cs ds) (hsome : ds ≠ [])
    {place : Int} (hplace : place ≤ cs.length) : ∃ whole fraction,
      Mantissa (pointed cs place).toList whole fraction ∧
        ofDigits (whole ++ fraction) = ofDigits ds ∧
          (fraction.length : Int) = cs.length - place := by
  have hlength := h.length_eq
  unfold pointed
  by_cases hzeros : place ≤ 0
  · rw [if_pos hzeros]
    refine ⟨[0], List.replicate (-place).toNat 0 ++ ds, ?_, ?_, ?_⟩
    · rw [String.toList_append, show "0.".toList = ['0', '.'] from rfl, String.toList_ofList]
      exact .pointed (show Digits ['0'] [0] from digits_zeros 1) ((digits_zeros _).append h)
        fun hnil => hsome (List.append_eq_nil_iff.mp hnil).2
    · exact ofDigits_zeros ds ((-place).toNat + 1)
    · rw [List.length_append, List.length_replicate]
      omega
  · rw [if_neg hzeros]
    by_cases hinside : place.toNat < cs.length
    · rw [if_pos hinside]
      refine ⟨ds.take place.toNat, ds.drop place.toNat, ?_, ?_, ?_⟩
      · rw [String.toList_append, String.toList_append, show ".".toList = ['.'] from rfl,
          String.toList_ofList, String.toList_ofList, List.append_assoc]
        refine .pointed (h.take _) (h.drop _) fun hnil => ?_
        have hle := List.drop_eq_nil_iff.mp hnil
        omega
      · rw [List.take_append_drop]
      · rw [List.length_drop]
        omega
    · rw [if_neg hinside]
      have hall : place.toNat - cs.length = 0 := by omega
      refine ⟨ds, [], ?_, ?_, ?_⟩
      · rw [String.toList_ofList, hall, List.replicate_zero, List.append_nil]
        exact .whole h hsome
      · rw [List.append_nil]
      · rw [List.length_nil]
        omega

/-- An exponent is written with its sign. -/
theorem exponentText_exponent (e : Int) : Exponent (exponentText e).toList e := by
  obtain ⟨ds, hds, hvalue, hsome⟩ := digits_toDigits e.natAbs
  have htext : (toString e.natAbs).toList = Nat.toDigits 10 e.natAbs := by
    rw [Nat.toString_eq_ofList_toDigits, String.toList_ofList]
  unfold exponentText
  rw [String.toList_append, String.toList_append, htext, List.append_assoc]
  by_cases hneg : e < 0
  · rw [if_pos hneg]
    have hwritten := Exponent.written (.inr rfl) IsSign.minus hds hsome
    rwa [if_pos rfl, hvalue, show -(e.natAbs : Int) = e by omega] at hwritten
  · rw [if_neg hneg]
    have hwritten := Exponent.written (.inr rfl) IsSign.plus hds hsome
    rwa [if_neg Bool.false_ne_true, hvalue, show (e.natAbs : Int) = e by omega] at hwritten

/-! ## 3. The written form -/

/-- The written form without the sign has the digits and the exponent of the decimal. -/
theorem unsignedText_parts (d : Decimal) : ∃ ms es whole fraction e,
    d.unsignedText.toList = ms ++ es ∧ Mantissa ms whole fraction ∧ Exponent es e ∧
      ofDigits (whole ++ fraction) = d.coefficient ∧ e - fraction.length = d.exponent := by
  obtain ⟨ds, hdigits, hvalue, hsome⟩ := digits_toDigits d.coefficient
  replace hdigits : Digits d.digits ds := hdigits
  have hlength : 1 ≤ d.digits.length := Nat.length_toDigits_pos
  have hadjusted : d.adjusted = d.exponent + d.digits.length - 1 := rfl
  unfold unsignedText
  split
  · -- positional
    rename_i hplain
    obtain ⟨hexponent, _⟩ := Bool.and_eq_true_iff.mp hplain
    have hle : d.exponent ≤ 0 := of_decide_eq_true hexponent
    obtain ⟨whole, fraction, hm, hsame, hfraction⟩ := pointed_mantissa hdigits hsome
      (show d.exponent + d.digits.length ≤ d.digits.length by omega)
    exact ⟨_, [], whole, fraction, 0, (List.append_nil _).symm, hm, .none, hsame.trans hvalue,
      by omega⟩
  · rename_i hplain
    obtain ⟨whole, fraction, hm, hsame, hfraction⟩ := pointed_mantissa hdigits hsome
      (show (1 : Int) ≤ d.digits.length by omega)
    split
    · -- a leading digit at the point would have been written positionally
      rename_i hzero
      refine absurd ?_ hplain
      rw [Bool.and_eq_true, decide_eq_true_iff, decide_eq_true_iff]
      omega
    · rw [String.toList_append]
      exact ⟨_, _, whole, fraction, d.adjusted, rfl, hm, exponentText_exponent d.adjusted,
        hsame.trans hvalue, by omega⟩

/-- **The written form of a decimal denotes it**: its sign, its coefficient and its exponent. -/
theorem text_denotes (d : Decimal) : Denotes d.text.toList d := by
  obtain ⟨ms, es, whole, fraction, e, htext, hm, he, hcoefficient, hexponent⟩ :=
    unsignedText_parts d
  have hdecimal : Decimal.mk d.negative (ofDigits (whole ++ fraction)) (e - fraction.length) = d := by
    rw [hcoefficient, hexponent]
  rw [text, String.toList_append, htext]
  cases hnegative : d.negative with
  | true =>
    have hdenotes := Denotes.mk IsSign.minus hm he
    rw [hnegative] at hdecimal
    rwa [hdecimal] at hdenotes
  | false =>
    have hdenotes := Denotes.mk IsSign.none hm he
    rw [hnegative] at hdecimal
    rwa [hdecimal] at hdenotes

/-- A text is read as a decimal when it denotes it and its leading digit is within the limits. -/
theorem read?_iff {s : String} {d : Decimal} :
    read? s = some d ↔ Denotes s.toList d ∧ |d.adjusted| ≤ 1000 := by
  have hlimit : |d.adjusted| ≤ 1000 ↔ d.adjusted.natAbs ≤ maxExponent := by
    rw [Int.abs_eq_natAbs, maxExponent]
    omega
  rw [hlimit, ← readPlain_iff, read?]
  cases hread : readPlain s.toList with
  | none => exact ⟨nofun, fun h => nomatch h.1⟩
  | some e =>
    dsimp only
    split
    · rename_i hle
      exact ⟨fun h => ⟨h, Option.some.inj h ▸ hle⟩, fun h => h.1⟩
    · rename_i hgt
      exact ⟨nofun, fun h => absurd (Option.some.inj h.1 ▸ h.2) hgt⟩

/-- **A decimal that is written is read back** with its sign, its coefficient and its exponent, when
    its leading digit is within the limits, and not read at all otherwise. Of all texts exactly the
    plain numbers within these limits are read, each as the decimal that it denotes. -/
theorem read_text : (∀ d : Decimal, read? d.text = if |d.adjusted| ≤ 1000 then some d else none) ∧
    ∀ (s : String) (d : Decimal), read? s = some d ↔ Denotes s.toList d ∧ |d.adjusted| ≤ 1000 := by
  refine ⟨fun d => ?_, fun s d => read?_iff⟩
  split
  · rename_i hle
    exact read?_iff.mpr ⟨text_denotes d, hle⟩
  · rename_i hgt
    refine Option.eq_none_iff_forall_ne_some.mpr fun e he => ?_
    obtain ⟨hdenotes, hle⟩ := read?_iff.mp he
    obtain rfl := hdenotes.unique (text_denotes d)
    exact hgt hle

end Reconcile.Decimal
