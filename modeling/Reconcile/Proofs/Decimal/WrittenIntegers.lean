import Mathlib.Algebra.Group.Nat.Defs
import Reconcile.Decimal.Shapes
import Reconcile.Proofs.Decimal.Plain

/-!
# Integers that are written and read back

An integer that is written in its plain digits is read as itself, as long as it has no more digits
than an integer may have to be given a value.

* `digitValue?_of_isDigit`, `separatedDigits_of_isDigit`: plain digits and their values;
* `trim_toString`: what is written has no blanks around it;
* **`readLooseInteger?_toString`**: a number that is written and read back.
-/

namespace Reconcile.Decimal

open Reconcile.Text

/-- The value of a plain digit. -/
theorem digitValue?_of_isDigit {c : Char} (h : c.isDigit = true) :
    digitValue? c = some (c.toNat - '0'.toNat) := by
  have hrange : 0x30 ≤ c.toNat ∧ c.toNat ≤ 0x39 := by
    rw [Char.isDigit, Bool.and_eq_true, decide_eq_true_iff, decide_eq_true_iff] at h
    exact h
  rw [digitValue?, digitZeros, digitValueFrom, if_neg (by omega), if_pos (by omega)]
  rfl

/-- Plain digits are not blank. -/
theorem isBlank_of_isDigit {c : Char} (h : c.isDigit = true) : isBlank c = false := by
  cases hblank : isBlank c with
  | false => rfl
  | true =>
    have hvalue := digitValue?_of_isDigit h
    rw [digitValue?_of_isBlank hblank] at hvalue
    cases hvalue

/-- Digits side by side are read one by one. -/
theorem separatedDigits_of_isDigit : ∀ {cs : List Char}, cs ≠ [] → (∀ c ∈ cs, c.isDigit = true) →
    separatedDigits cs = some (cs.map fun c => c.toNat - '0'.toNat)
  | [c], _, h => by
    rw [separatedDigits, digitValue?_of_isDigit (h c List.mem_cons_self)]
    rfl
  | c :: d :: rest, _, h => by
    obtain ⟨hc, hrest⟩ := List.forall_mem_cons.mp h
    have hd : d ≠ '_' := by
      rintro rfl
      exact absurd (hrest '_' List.mem_cons_self) (by decide)
    rw [separatedDigits, digitValue?_of_isDigit hc,
      separatedDigits_of_isDigit (List.cons_ne_nil d rest) hrest]
    · rfl
    · exact hd

theorem ofDigits_digitValues (cs : List Char) :
    ofDigits (cs.map fun c => c.toNat - '0'.toNat) = Nat.ofDigitChars 10 cs 0 := by
  rw [ofDigits, List.foldl_map]
  rfl

/-- What does not begin with a sign has none. -/
theorem takeSign_of_isDigit {cs : List Char} (h : ∀ c ∈ cs, c.isDigit = true) :
    takeSign cs = (false, cs) := by
  unfold takeSign
  split
  · exact absurd (h '+' List.mem_cons_self) (by decide)
  · exact absurd (h '-' List.mem_cons_self) (by decide)
  · rfl

section Written

variable (n : Nat)

theorem isDigit_of_mem_toDigits {c : Char} (h : c ∈ Nat.toDigits 10 n) : c.isDigit = true :=
  Nat.isDigit_of_mem_toDigits (by decide) (by decide) h

theorem trimChars_toDigits : trimChars (Nat.toDigits 10 n) = Nat.toDigits 10 n :=
  trimChars_eq_self fun _ hc => isBlank_of_isDigit (isDigit_of_mem_toDigits n hc)

/-- What is written has no blanks around it, and is not empty. -/
theorem trim_toString : trim (toString n) = toString n ∧ toString n ≠ "" := by
  have htext : (toString n).toList = Nat.toDigits 10 n := by
    rw [Nat.toString_eq_ofList_toDigits, String.toList_ofList]
  constructor
  · rw [trim, htext, trimChars_toDigits, Nat.toString_eq_ofList_toDigits]
  · intro hempty
    rw [hempty] at htext
    exact Nat.toDigits_ne_nil htext.symm

/-- **A number that is written in its digits is read back** unless it has too many of them. -/
theorem readLooseInteger?_toString : readLooseInteger? (toString n) =
    if n < 10 ^ maxIntegerDigits then some (n : Int) else none := by
  have hdigits : ∀ c ∈ Nat.toDigits 10 n, c.isDigit = true := fun _ => isDigit_of_mem_toDigits n
  have hlength : (Nat.toDigits 10 n).length ≤ maxIntegerDigits ↔ n < 10 ^ maxIntegerDigits :=
    Nat.length_toDigits_le_iff (by decide) (by decide)
  unfold readLooseInteger?
  rw [Nat.toString_eq_ofList_toDigits, String.toList_ofList, trimChars_toDigits,
    takeSign_of_isDigit hdigits]
  dsimp only
  rw [separatedDigits_of_isDigit Nat.toDigits_ne_nil hdigits]
  dsimp only
  rw [List.length_map, ofDigits_digitValues, Nat.ofDigitChars_ten_toDigits]
  by_cases hn : n < 10 ^ maxIntegerDigits
  · rw [if_pos hn, if_pos (hlength.mpr hn)]
    rfl
  · rw [if_neg hn, if_neg (mt hlength.mp hn)]

end Written

end Reconcile.Decimal
