import Reconcile.Proofs.Decimal.Plain
import Reconcile.Proofs.Expectation.Literals
import Reconcile.Proofs.Table.KeyEquality
import Reconcile.Table.RowDiff

/-!
# Equal cells match

Two cells are told to be equal in two ways. A key compares them as they stand: as numbers up to a
precision when both are numbers, as texts otherwise. The diff of a pair of rows takes surrounding
blanks off first, and what it does not compare as numbers it hands to an expectation, which may
ignore case. What is equal to a key is a match to the diff.

* `matchedLeaf`, `check_self`: the leaf of a value that matched; a literal matches itself;
* `numericLeaf?_of_numbers`, `numericLeaf?_self`: numbers that are within the precision;
* `compareCell_self`: a cell matches itself;
* **`compareCell_of_sameCell`**: cells that are equal in a key match.
-/

namespace Reconcile.Table

open Reconcile.Diff Reconcile.Expectation

variable {s : Settings} {column : String}

/-! ## 1. Leaves of matches -/

/-- The leaf of a pair of cells that match. -/
def matchedLeaf (column : String) (expected actual : Option String) : Leaf :=
  { name := column, expected, actual, outcome := .matched }

/-- A literal that is checked against itself matches. -/
theorem check_self {value : Option String} (h : isExpression value = false) (column : String)
    (caseSensitive : Bool) :
    check column value value none caseSensitive = .ok (matchedLeaf column value value) := by
  rw [check, accepts_self h]
  rfl

/-! ## 2. Numbers -/

/-- Two cells with numbers within the precision match as numbers, blanks or not. -/
theorem numericLeaf?_of_numbers {p a b : Decimal} {expected actual : Option String}
    (he : Decimal.readCell? expected = some a) (ha : Decimal.readCell? actual = some b)
    (h : |a.toRat - b.toRat| ≤ p.toRat) :
    numericLeaf? p column expected actual = some (matchedLeaf column expected actual) := by
  have hwithin : Decimal.within a b p = true := Decimal.within_iff.mpr h
  unfold numericLeaf?
  rw [Decimal.readCell?_trim he, Decimal.readCell?_trim ha]
  dsimp only
  rw [hwithin]
  rfl

/-- A number is within every distance of itself that is not negative. -/
theorem numericLeaf?_self {p : Decimal} (hp : 0 ≤ p.toRat) {value : Option String} {leaf : Leaf}
    (h : numericLeaf? p column value value = some leaf) : leaf = matchedLeaf column value value := by
  unfold numericLeaf? at h
  cases hread : Decimal.readCell? (value.map Text.trim) with
  | none =>
    rw [hread] at h
    cases h
  | some d =>
    rw [hread] at h
    obtain rfl := Option.some.inj h
    have hwithin : Decimal.within d d p = true :=
      Decimal.within_iff.mpr (by rw [sub_self, abs_zero]; exact hp)
    rw [hwithin]
    rfl

/-! ## 3. Cells -/

/-- A literal in a numeric column is compared as a number when both cells are numbers. -/
theorem compareCell_numeric {p : Decimal} (hprecision : s.precision? column = some p)
    {expected actual : Option String} (hexpected : isExpression expected = false) :
    compareCell s column expected actual =
      (numericLeaf? p column expected actual).elim
        (check column expected actual none s.caseSensitive) .ok := by
  rw [compareCell, hprecision, Option.bind_some, hexpected, if_neg Bool.false_ne_true]
  cases numericLeaf? p column expected actual with
  | none => rfl
  | some leaf => rfl

/-- In other columns every cell is checked. -/
theorem compareCell_plain (hprecision : s.precision? column = none)
    (expected actual : Option String) :
    compareCell s column expected actual = check column expected actual none s.caseSensitive := by
  rw [compareCell, hprecision, Option.bind_none]

/-- **A cell matches itself**, as a number or as a literal. -/
theorem compareCell_self (h : ∀ p, s.precision? column = some p → 0 ≤ p.toRat)
    {value : Option String} (hvalue : isExpression value = false) :
    compareCell s column value value = .ok (matchedLeaf column value value) := by
  cases hprecision : s.precision? column with
  | none => rw [compareCell_plain hprecision, check_self hvalue]
  | some p =>
    rw [compareCell_numeric hprecision hvalue]
    cases hleaf : numericLeaf? p column value value with
    | none => exact check_self hvalue column s.caseSensitive
    | some leaf => rw [numericLeaf?_self (h p hprecision) hleaf, Option.elim_some]

/-- Values that are equal but not as numbers are equal as texts. -/
theorem eq_of_sameCell {precision : Option Decimal} {left right : Option String}
    (h : sameCell precision left right = true) :
    left = right ∨ ∃ p a b, precision = some p ∧ Decimal.readCell? left = some a ∧
      Decimal.readCell? right = some b ∧ |a.toRat - b.toRat| ≤ p.toRat := by
  unfold sameCell at h
  split at h
  · rename_i p a b ha hb
    exact .inr ⟨p, a, b, rfl, ha, hb, of_decide_eq_true h⟩
  · exact .inl (eq_of_beq h)

/-- **Cells that are equal in a key match**, when the expected one is absent or a literal and the
    precision of the column is not negative. -/
theorem compareCell_of_sameCell (hprecision : ∀ p, s.precision? column = some p → 0 ≤ p.toRat)
    {expected actual : Option String} (hexpected : isExpression expected = false)
    (h : sameCell (s.precision? column) expected actual = true) :
    compareCell s column expected actual = .ok (matchedLeaf column expected actual) := by
  rcases eq_of_sameCell h with rfl | ⟨p, a, b, hp, ha, hb, hdistance⟩
  · exact compareCell_self hprecision hexpected
  · rw [compareCell_numeric hp hexpected, numericLeaf?_of_numbers ha hb hdistance,
      Option.elim_some]

end Reconcile.Table
