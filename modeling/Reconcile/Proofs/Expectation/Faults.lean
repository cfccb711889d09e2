import Reconcile.Proofs.Expectation.Literals
import Reconcile.Proofs.Traversal

/-!
# Faults lie with the expectation

Whether an expectation can be evaluated is a matter of the expectation alone: its arguments, its
pattern and its date format are looked at before the actual value is, and nothing that is done with
an actual value afterwards can fail.

* `FailAlike`: two evaluations that end in the same fault, or both in none;
* `readDate_failAlike`, `dateOf_failAlike`: two texts read as dates with one format;
* `matchCall_failAlike`: the functions, one after the other;
* **`faults_of_expectation`**: two actual values.
-/

namespace Reconcile

/-! ## 1. Evaluations that fail alike -/

/-- Two evaluations that end in the same fault, or both in none, whatever they give then. -/
def FailAlike {ε α β : Type} : Except ε α → Except ε β → Prop := BothGive fun _ _ => True

theorem FailAlike.refl {ε α : Type} (r : Except ε α) : FailAlike r r :=
  (BothGive.refl r).imp fun _ _ _ => trivial

theorem failAlike_ok {ε α β : Type} (a : α) (b : β) : FailAlike (.ok a : Except ε α) (.ok b) :=
  .ok trivial

/-! ## 2. Dates -/

namespace Calendar

/-- A pattern that cannot be read with is found out before the text is looked at. -/
theorem readDate_failAlike (pattern value value' : String) (rule : IsoRule) :
    FailAlike (readDate pattern (some value) rule) (readDate pattern (some value') rule) := by
  unfold readDate
  dsimp only
  cases directivesOf pattern with
  | error f => exact FailAlike.refl _
  | ok directives =>
    dsimp only
    unfold readWith
    cases readFormat? directives with
    | none => exact FailAlike.refl _
    | some parts =>
      dsimp only
      cases FormatPart.repeated? parts with
      | none => exact failAlike_ok _ _
      | some f => exact FailAlike.refl _

end Calendar

namespace Expectation

open BothGive (bind_same)

theorem dateOf_failAlike (format value value' : String) :
    FailAlike (dateOf format (some value)) (dateOf format (some value')) :=
  (Calendar.readDate_failAlike format value value' .every).mapError _

/-! ## 3. Functions -/

variable (f : Function) (e : Expression) (actual actual' : String)

theorem matchDateBound_failAlike :
    FailAlike (matchDateBound f e (some actual)) (matchDateBound f e (some actual')) := by
  refine bind_same _ fun format => bind_same _ fun bound => ?_
  refine (dateOf_failAlike format actual actual').bind fun m m' _ => ?_
  cases m <;> cases m' <;> exact failAlike_ok _ _

theorem matchBetweenDates_failAlike :
    FailAlike (matchBetweenDates e (some actual)) (matchBetweenDates e (some actual')) := by
  refine bind_same _ fun format => bind_same _ fun left => bind_same _ fun right =>
    bind_same _ fun inclusion => ?_
  refine (dateOf_failAlike format actual actual').bind fun m m' _ => ?_
  cases m <;> cases m' <;> exact failAlike_ok _ _

theorem matchTimestamp_failAlike :
    FailAlike (matchCall .isTimestamp e (some actual)) (matchCall .isTimestamp e (some actual')) := by
  refine bind_same _ fun format => ?_
  exact (dateOf_failAlike format actual actual').bind fun _ _ _ => failAlike_ok _ _

/-- Whatever the actual number, and whether there is one, the function has an answer. -/
theorem matchNumberBound_failAlike :
    FailAlike (matchNumberBound f e (some actual)) (matchNumberBound f e (some actual')) := by
  refine bind_same _ fun bound => ?_
  cases Decimal.readCell? (some actual) <;> cases Decimal.readCell? (some actual') <;>
    exact failAlike_ok _ _

theorem matchBetween_failAlike :
    FailAlike (matchBetween e (some actual)) (matchBetween e (some actual')) := by
  refine bind_same _ fun left => bind_same _ fun right => bind_same _ fun inclusion => ?_
  cases Decimal.readCell? (some actual) <;> cases Decimal.readCell? (some actual') <;>
    exact failAlike_ok _ _

theorem matchNumber_failAlike :
    FailAlike (matchNumber f e (some actual)) (matchNumber f e (some actual')) := by
  refine bind_same _ fun expected => bind_same _ fun margin => bind_same _ fun scale => ?_
  cases Decimal.readCell? (some actual) <;> cases Decimal.readCell? (some actual') <;>
    exact failAlike_ok _ _

theorem matchNotEqualText_failAlike :
    FailAlike (matchNotEqualText e (some actual)) (matchNotEqualText e (some actual')) := by
  unfold matchNotEqualText
  dsimp only
  split
  · exact BothGive.error _
  · refine bind_same _ fun caseSensitive => bind_same _ fun ignoreSpaces => ?_
    exact failAlike_ok _ _

/-- **A call fails alike** for two actual values. -/
theorem matchCall_failAlike :
    FailAlike (matchCall f e (some actual)) (matchCall f e (some actual')) := by
  cases f with
  | isTimestamp => exact matchTimestamp_failAlike e actual actual'
  | isBeforeDate => exact matchDateBound_failAlike _ e actual actual'
  | isAfterDate => exact matchDateBound_failAlike _ e actual actual'
  | isBetweenDates => exact matchBetweenDates_failAlike e actual actual'
  | isGreaterThan => exact (matchNumberBound_failAlike _ e actual actual').mapError _
  | isGreaterOrEqual => exact (matchNumberBound_failAlike _ e actual actual').mapError _
  | isLessThan => exact (matchNumberBound_failAlike _ e actual actual').mapError _
  | isLessOrEqual => exact (matchNumberBound_failAlike _ e actual actual').mapError _
  | isBetween => exact (matchBetween_failAlike e actual actual').mapError _
  | asNumber => exact (matchNumber_failAlike _ e actual actual').mapError _
  | asAbsNumber => exact (matchNumber_failAlike _ e actual actual').mapError _
  | isNotEqualNumber => exact (matchNumber_failAlike _ e actual actual').mapError _
  | isNotEqualText => exact (matchNotEqualText_failAlike e actual actual').mapError _

/-! ## 4. Expected values -/

theorem accepts_failAlike (caseSensitive caseSensitive' : Bool) :
    FailAlike (e.accepts (some actual) caseSensitive) (e.accepts (some actual') caseSensitive') := by
  cases e with
  | literal expected => exact failAlike_ok _ _
  | sentinel s => exact failAlike_ok _ _
  | pattern raw => exact bind_same _ fun pattern => failAlike_ok _ _
  | call f arguments => exact bind_same _ fun _ => matchCall_failAlike f _ actual actual'

/-- **Faults lie with the expectation.** The fault that the evaluation of an expected value ends in
    for one actual value is the one that it ends in for every other, whether case counts or not; and a
    literal has an answer to every actual value, present or absent. -/
theorem faults_of_expectation (expected : Option String) :
    (∀ (actual actual' : String) (caseSensitive caseSensitive' : Bool) (f : Fault),
      accepts expected (some actual) caseSensitive = .error f ↔
        accepts expected (some actual') caseSensitive' = .error f) ∧
    (isExpression expected = false → ∀ (actual : Option String) (caseSensitive : Bool),
      ∃ answer, accepts expected actual caseSensitive = .ok answer) := by
  constructor
  · intro actual actual' caseSensitive caseSensitive'
    exact (accepts_failAlike (Expression.ofCell expected) actual actual' caseSensitive
      caseSensitive').error_iff
  · intro hliteral actual caseSensitive
    exact ⟨_, accepts_of_literal hliteral actual caseSensitive⟩

/-- A bound that is no number is told whatever is compared to it; a word is no fault. -/
theorem faults_of_expectation_bound :
    accepts (some "@\x7bisBetween(1, x)\x7d") (some "two") false =
      .error (.malformed (.badArgument "isBetween" "x" 1 "Right bound")) ∧
    ∃ answer, accepts (some "isBetween") none true = .ok answer := by
  constructor
  · refine ((faults_of_expectation (some "@\x7bisBetween(1, x)\x7d")).1 "5" "two" true false _).mp ?_
    rfl
  · exact (faults_of_expectation (some "isBetween")).2 (by decide +kernel) none true

end Expectation

end Reconcile
