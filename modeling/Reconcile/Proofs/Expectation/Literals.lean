import Reconcile.Expectation.Check

/-!
# Literals

An expected text that is no expression asks for itself.

* `ofCell_of_literal`, **`accepts_of_literal`**: what a literal is taken for, and what it accepts;
* `literalMatches_self`, `literalMatches_comm`: a literal matches itself, and matching has no sides;
  `literalMatches_eq`: where case counts, it matches nothing else;
* `accepts_self`: a literal accepts itself.
-/

namespace Reconcile.Expectation

/-- A cell that is no expression is a literal: itself. -/
theorem ofCell_of_literal {expected : Option String} (h : isExpression expected = false) :
    Expression.ofCell expected = .literal expected := by
  cases expected with
  | none => rfl
  | some s =>
    show Expression.ofText s = .literal (some s)
    replace h : (!(Expression.ofText s).isLiteral) = false := h
    unfold Expression.ofText at h ⊢
    by_cases hpattern : occursIn opening s.toList = true
    · simp only [if_pos hpattern] at h
      cases h
    · simp only [if_neg hpattern] at h ⊢
      cases hcall : readCall? (Text.trimChars s.toList) with
      | some call =>
        rw [hcall] at h
        cases h
      | none =>
        rw [hcall] at h
        cases hword : Sentinel.ofToken? (String.ofList (Text.trimChars s.toList)) with
        | some word =>
          rw [hword] at h
          cases h
        | none => rfl

/-- **A literal is evaluated** by comparing it, without a fault. -/
theorem accepts_of_literal {expected : Option String} (h : isExpression expected = false)
    (actual : Option String) (caseSensitive : Bool) :
    accepts expected actual caseSensitive = .ok (literalMatches expected actual caseSensitive) := by
  rw [accepts, ofCell_of_literal h, Expression.accepts]

theorem literalMatches_self (value : Option String) (caseSensitive : Bool) :
    literalMatches value value caseSensitive = true := by
  cases value with
  | none => rfl
  | some v => cases caseSensitive <;> exact beq_self_eq_true _

theorem literalMatches_comm (x y : Option String) (caseSensitive : Bool) :
    literalMatches x y caseSensitive = literalMatches y x caseSensitive := by
  cases x with
  | none => cases y <;> rfl
  | some x => cases y with
    | none => rfl
    | some y =>
      cases caseSensitive with
      | true => exact BEq.comm
      | false => exact BEq.comm

/-- A literal asks for itself when case counts. -/
theorem literalMatches_eq (expected actual : Option String) :
    literalMatches expected actual true = (actual == expected) := by
  cases expected with
  | none => cases actual <;> rfl
  | some e =>
    cases actual with
    | none => rfl
    | some a => exact BEq.comm

/-- A literal matches itself. -/
theorem accepts_self {value : Option String} (h : isExpression value = false)
    (caseSensitive : Bool) : accepts value value caseSensitive = .ok true := by
  rw [accepts_of_literal h, literalMatches_self]

end Reconcile.Expectation
