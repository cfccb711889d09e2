import Reconcile.Decimal.Reader
import Reconcile.Proofs.Text.Trim

/-!
# The characters of plain numbers

A cell is a number only as it stands: digits, a sign, a point and an exponent, and nothing else. None
of these is blank, so it does not matter to a number whether the blanks around its text are removed
first.

* `Ranges.points`, `digitValue?_of_isBlank`: the code points of a class, listed; no digit is blank;
* `isNumeral`: the characters of numbers; `isNumeral_of_isBlank`: blanks are not among them;
* `numeral_of_spanDigits`, `readExponent_numeral`, **`readPlain_numeral`**: the parts of a number
  are made of them;
* `trim_of_read?`: the text of a number has no blanks to remove;
* `readCell?_trim`: so a cell that holds a number holds the same one without blanks.
-/

namespace Reconcile

open Reconcile.Text

/-! ## 1. Characters of a class -/

namespace Text

/-- The code points of all ranges. -/
def Ranges.points (r : Ranges) : List Nat :=
  r.flatMap fun range => List.range' range.1 (range.2 + 1 - range.1)

/-- A code point that lies in one of the ranges is listed. -/
theorem Ranges.mem_points_of_has {n : Nat} : ∀ {r : Ranges}, r.has n = true → n ∈ r.points
  | [], h => by cases h
  | (lo, hi) :: rest, h => by
    unfold Ranges.has at h
    unfold Ranges.points
    rw [List.flatMap_cons, List.mem_append]
    by_cases hlo : n < lo
    · rw [if_pos hlo] at h
      cases h
    · rw [if_neg hlo, Bool.or_eq_true, decide_eq_true_iff] at h
      rcases h with hhi | hrest
      · refine .inl (List.mem_range'_1.mpr ⟨Nat.le_of_not_lt hlo, ?_⟩)
        omega
      · exact .inr (Ranges.mem_points_of_has hrest)

/-- No digit of any script is blank. -/
theorem digitValue?_of_isBlank {c : Char} (h : isBlank c = true) : digitValue? c = none := by
  have hall : ∀ n ∈ blankRanges.points, digitValueFrom digitZeros n = none := by decide +kernel
  exact hall c.toNat (Ranges.mem_points_of_has h)

end Text

/-! ## 2. Parts of a number -/

namespace Decimal

/-- The characters that numbers are made of. -/
def isNumeral (c : Char) : Bool := isDigit c || ['+', '-', '.', 'e', 'E'].contains c

/-- A text that is made of the characters of numbers. -/
def Numeral (s : List Char) : Prop := ∀ c ∈ s, isNumeral c = true

theorem Numeral.nil : Numeral [] := List.forall_mem_nil _

theorem Numeral.cons {c : Char} {s : List Char} (hc : isNumeral c = true) (hs : Numeral s) :
    Numeral (c :: s) := List.forall_mem_cons.mpr ⟨hc, hs⟩

/-- No character of a number is blank. -/
theorem isNumeral_of_isBlank {c : Char} (h : isBlank c = true) : isNumeral c = false := by
  have hsigns : (['+', '-', '.', 'e', 'E'].all fun d => !isBlank d) = true := by decide
  rw [isNumeral, isDigit, digitValue?_of_isBlank h, Option.isSome_none, Bool.false_or,
    Bool.eq_false_iff, ne_eq, List.contains_iff_mem]
  intro hmem
  have hnot := List.all_eq_true.mp hsigns c hmem
  rw [h] at hnot
  cases hnot

/-- A run of digits is made of them: a text is when what follows is. -/
theorem numeral_of_spanDigits : ∀ {s : List Char}, Numeral (spanDigits s).2 → Numeral s
  | [], h => h
  | c :: rest, h => by
    unfold spanDigits at h
    cases hdigit : digitValue? c with
    | none =>
      rw [hdigit] at h
      exact h
    | some v =>
      rw [hdigit] at h
      have hc : isNumeral c = true := by
        rw [isNumeral, isDigit, hdigit]
        rfl
      exact .cons hc (numeral_of_spanDigits h)

theorem numeral_of_takeSign {s : List Char} (h : Numeral (takeSign s).2) : Numeral s := by
  unfold takeSign at h
  split at h
  · exact .cons (by decide) h
  · exact .cons (by decide) h
  · exact h

/-- An exponent is made of the characters of numbers. -/
theorem readExponent_numeral {s : List Char} {e : Int} (h : readExponent s = some e) :
    Numeral s := by
  cases s with
  | nil => exact .nil
  | cons c rest =>
    unfold readExponent at h
    by_cases hletter : (c == 'e' || c == 'E') = true
    · have hc : isNumeral c = true := by
        rcases Bool.or_eq_true_iff.mp hletter with he | he <;> rw [eq_of_beq he] <;> decide
      refine .cons hc (numeral_of_takeSign (numeral_of_spanDigits ?_))
      dsimp only at h
      rw [if_pos hletter] at h
      split at h
      · cases h
      · rename_i hspan
        rw [hspan]
        exact .nil
      · cases h
    · dsimp only at h
      rw [if_neg hletter] at h
      cases h

theorem assemble_numeral {minus : Bool} {whole fraction : List Nat} {tail : List Char}
    {d : Decimal} (h : assemble minus whole fraction tail = some d) : Numeral tail := by
  obtain ⟨e, he, _⟩ := Option.map_eq_some_iff.mp h
  exact readExponent_numeral he

/-- **A plain number is made of the characters of numbers.** -/
theorem readPlain_numeral {s : List Char} {d : Decimal} (h : readPlain s = some d) : Numeral s := by
  refine numeral_of_takeSign (numeral_of_spanDigits ?_)
  unfold readPlain at h
  dsimp only at h
  split at h
  case h_1 whole rest hspan =>
    rw [hspan]
    refine .cons (by decide) (numeral_of_spanDigits ?_)
    split at h
    · cases h
    · rename_i hfraction
      rw [hfraction]
      exact assemble_numeral h
  case h_2 => cases h
  case h_3 hspan =>
    rw [hspan]
    exact assemble_numeral h

/-! ## 3. Cells -/

/-- The text that is read as a number is one, and it is made of the characters of numbers. -/
theorem numeral_of_read? {s : String} {d : Decimal} (h : read? s = some d) : Numeral s.toList := by
  unfold read? at h
  split at h
  · rename_i hplain
    exact readPlain_numeral hplain
  · cases h

/-- The text of a number has no blanks to remove. -/
theorem trim_of_read? {s : String} {d : Decimal} (h : read? s = some d) : trim s = s := by
  have hblank : ∀ c ∈ s.toList, isBlank c = false := fun c hc => by
    by_contra hnot
    have hnumeral := numeral_of_read? h c hc
    rw [isNumeral_of_isBlank (by simpa using hnot)] at hnumeral
    cases hnumeral
  rw [trim, trimChars_eq_self hblank, String.ofList_toList]

/-- A cell that holds a number holds it without surrounding blanks as well. -/
theorem readCell?_trim {cell : Option String} {d : Decimal} (h : readCell? cell = some d) :
    readCell? (cell.map trim) = some d := by
  obtain ⟨s, rfl, hs⟩ := Option.bind_eq_some_iff.mp h
  rw [Option.map_some, trim_of_read? hs]
  exact h

end Decimal

end Reconcile
