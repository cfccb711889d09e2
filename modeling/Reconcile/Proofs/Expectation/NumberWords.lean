import Reconcile.Proofs.Decimal.NumberPatterns
import Reconcile.Proofs.Decimal.WrittenDecimals
import Reconcile.Proofs.Expectation.EmbeddedLanguage

/-!
# The words for numbers

Three words ask for numbers by their shape alone, and functions take a cell for a number when it is
a plain one. Each of the four is the language of a regular pattern, and of these one lies in the
other: an integer is a plain number, so is a float with a point, and all of them are numbers in the
wide sense.

* `ofText_token`, **`accepts_token`**: a word as it is written, and what it accepts;
* `Fits`, `fits_iff`: a text that is what a word asks for;
* `fullyMatches_of_standsFor`: a pattern takes the texts of its language;
* **`number_words_consistent`**: the words side by side.
-/

namespace Reconcile.Expectation

open Decimal (StandsFor isPlain read? numberPattern integerPattern floatPattern plainPattern)

/-! ## 1. Words -/

/-- A word is taken for itself. -/
theorem ofText_token (word : Sentinel) : Expression.ofText word.token = .sentinel word := by
  cases word <;> decide +kernel

/-- **A word is evaluated without a fault.** -/
theorem accepts_token (word : Sentinel) (actual : Option String) (caseSensitive : Bool) :
    accepts (some word.token) actual caseSensitive = .ok (word.accepts actual) := by
  rw [accepts, Expression.ofCell, ofText_token, Expression.accepts]

/-- A text is what a word asks for. -/
def Fits (word : Sentinel) (text : String) (caseSensitive : Bool) : Prop :=
  accepts (some word.token) (some text) caseSensitive = .ok true

theorem fits_iff {word : Sentinel} {text : String} {caseSensitive : Bool} :
    Fits word text caseSensitive ↔ word.accepts (some text) = true := by
  rw [Fits, accepts_token, Except.ok.injEq]

/-! ## 2. Patterns -/

/-- A pattern takes the texts that it stands for. -/
theorem fullyMatches_of_standsFor {pattern : String} {L : List Char → Prop}
    (h : StandsFor pattern L) (text : List Char) : FullyMatches pattern.toList text ↔ L text := by
  obtain ⟨n, hread, hregular, htakes⟩ := h
  exact (fullyMatches_iff_takes hread hregular).trans (htakes text)

/-! ## 3. Numbers -/

section Numbers

variable {text : String} {caseSensitive : Bool}

theorem fits_isNumber : Fits .isNumber text caseSensitive ↔ Decimal.WideNumber text.toList :=
  fits_iff.trans Decimal.isNumber_iff

theorem fits_isInteger : Fits .isInteger text caseSensitive ↔ Decimal.IntegerShape text.toList :=
  fits_iff.trans Decimal.isInteger_iff

theorem fits_isFloat : Fits .isFloat text caseSensitive ↔ Decimal.FloatShape text.toList :=
  fits_iff.trans Decimal.isFloat_iff

/-- A plain number is a number in the wide sense. -/
theorem fits_isNumber_of_isPlain (h : isPlain text = true) : Fits .isNumber text caseSensitive := by
  obtain ⟨d, hd⟩ := Decimal.isPlain_iff.mp h
  have hwide := hd.wide .none
  rw [List.append_nil] at hwide
  exact fits_isNumber.mpr hwide

/-- With a type letter behind it, a plain number is one in the wide sense only. -/
theorem isPlain_push (h : isPlain text = true) {q : Char} (hq : q ∈ Decimal.typeLetters) :
    Fits .isNumber (text.push q) caseSensitive ∧ isPlain (text.push q) = false := by
  obtain ⟨d, hd⟩ := Decimal.isPlain_iff.mp h
  constructor
  · rw [fits_isNumber, String.toList_push]
    exact hd.wide (.written hq)
  · rw [Bool.eq_false_iff, ne_eq, Decimal.isPlain_iff, String.toList_push]
    rintro ⟨e, he⟩
    exact Decimal.Denotes.not_letter hq e he

/-- What is read as a decimal is a plain number. -/
theorem isPlain_of_read? (h : (read? text).isSome = true) : isPlain text = true := by
  obtain ⟨d, hd⟩ := Option.isSome_iff_exists.mp h
  exact Decimal.isPlain_iff.mpr ⟨d, (Decimal.read?_iff.mp hd).1⟩

end Numbers

/-- **The words for numbers are consistent.** A text is what one of the three words asks for when it
    is taken by the pattern of the word, and a plain number when it is taken by the pattern of
    these. What is read as a decimal, an integer and a float are all numbers in the wide sense; no
    integer is a float; an integer is a plain number, and so is a float without a comma. A plain
    number is one in the wide sense with a type letter behind it or without, but with one it is
    plain no longer. -/
theorem number_words_consistent (text : String) (caseSensitive : Bool) :
    ((Fits .isNumber text caseSensitive ↔ FullyMatches numberPattern.toList text.toList) ∧
      (Fits .isInteger text caseSensitive ↔ FullyMatches integerPattern.toList text.toList) ∧
      (Fits .isFloat text caseSensitive ↔ FullyMatches floatPattern.toList text.toList) ∧
      (isPlain text = true ↔ FullyMatches plainPattern.toList text.toList)) ∧
    ((read? text).isSome = true ∨ Fits .isInteger text caseSensitive ∨
      Fits .isFloat text caseSensitive → Fits .isNumber text caseSensitive) ∧
    ¬ (Fits .isInteger text caseSensitive ∧ Fits .isFloat text caseSensitive) ∧
    (Fits .isInteger text caseSensitive → isPlain text = true) ∧
    (Fits .isFloat text caseSensitive → ',' ∉ text.toList → isPlain text = true) ∧
    (isPlain text = true → Fits .isNumber text caseSensitive ∧
      ∀ q ∈ ['f', 'F', 'd', 'D', 'l', 'L'],
        Fits .isNumber (text.push q) caseSensitive ∧ isPlain (text.push q) = false) := by
  have hinteger : Fits .isInteger text caseSensitive → isPlain text = true := fun h =>
    Decimal.isPlain_iff.mpr (fits_isInteger.mp h).plain
  refine ⟨⟨?_, ?_, ?_, ?_⟩, ?_, ?_, hinteger, ?_, ?_⟩
  · rw [fits_isNumber, fullyMatches_of_standsFor Decimal.numberPattern_standsFor]
  · rw [fits_isInteger, fullyMatches_of_standsFor Decimal.integerPattern_standsFor]
  · rw [fits_isFloat, fullyMatches_of_standsFor Decimal.floatPattern_standsFor]
  · rw [Decimal.isPlain_iff, fullyMatches_of_standsFor Decimal.plainPattern_standsFor]
  · rintro (hread | h | h)
    · exact fits_isNumber_of_isPlain (isPlain_of_read? hread)
    · exact fits_isNumber_of_isPlain (hinteger h)
    · exact fits_isNumber.mpr (fits_isFloat.mp h).wide
  · rintro ⟨hint, hfloat⟩
    have hnot : Decimal.isFloat text = false := Decimal.isFloat_of_isInteger (fits_iff.mp hint)
    rw [show Decimal.isFloat text = true from fits_iff.mp hfloat] at hnot
    cases hnot
  · exact fun h hcomma => Decimal.isPlain_iff.mpr ((fits_isFloat.mp h).plain hcomma)
  · exact fun h => ⟨fits_isNumber_of_isPlain h, fun q hq => isPlain_push h hq⟩

/-- A float with a digit of another script, which is read as a decimal and stays a number with a
    type letter behind it, and an integer. -/
theorem number_words_consistent_scripts :
    ((read? "-٣.5").isSome = true ∧ Fits .isFloat "-٣.5" true ∧ ',' ∉ "-٣.5".toList ∧
      isPlain "-٣.5" = true ∧ 'L' ∈ ['f', 'F', 'd', 'D', 'l', 'L'] ∧ Fits .isInteger "+7" true) ∧
    Fits .isNumber "-٣.5" true ∧ isPlain "-٣.5" = true ∧
    Fits .isNumber "-٣.5L" true ∧ isPlain "-٣.5L" = false ∧
    Fits .isNumber "+7" true ∧ isPlain "+7" = true := by
  have hread : (read? "-٣.5").isSome = true := by decide +kernel
  have hfloat : Fits .isFloat "-٣.5" true := fits_iff.mpr (by decide +kernel)
  have hcomma : ',' ∉ "-٣.5".toList := by decide +kernel
  have hplain : isPlain "-٣.5" = true := by decide +kernel
  have hletter : 'L' ∈ ['f', 'F', 'd', 'D', 'l', 'L'] := by decide
  have hinteger : Fits .isInteger "+7" true := fits_iff.mpr (by decide +kernel)
  obtain ⟨_, hnumber, _, _, hpoint, htyped⟩ := number_words_consistent "-٣.5" true
  obtain ⟨_, hnumber', _, hplain', _, _⟩ := number_words_consistent "+7" true
  obtain ⟨hwide, hnotPlain⟩ := (htyped hplain).2 'L' hletter
  exact ⟨⟨hread, hfloat, hcomma, hplain, hletter, hinteger⟩, hnumber (.inl hread),
    hpoint hfloat hcomma, hwide, hnotPlain, hnumber' (.inr (.inl hinteger)), hplain' hinteger⟩

end Reconcile.Expectation
