import Reconcile.Proofs.Calendar.RepeatedParts
import Reconcile.Proofs.Expectation.Literals

/-!
# What breaks an evaluation off

Most faults of an expectation are told beside its field. This module says which ones are not: a
pattern beyond the limits of what can be read, and a date format that asks for a part twice when
there is a date to read with it. Everything else an expectation can hold gives a leaf.

* `BreaksOff`: an evaluation that ends in a breakdown, followed through its steps;
* `Expression.breaksOff`: the same, read off an expression and the actual value;
* **`accepts_breaksOff_iff`**: an evaluation breaks off exactly then; `breaksOff_of_literal`: never
  for a literal;
* **`check_returns_iff`**: every other check gives a leaf.
-/

namespace Reconcile.Expectation

/-! ## 1. Steps of an evaluation -/

/-- An evaluation that is broken off. -/
def BreaksOff {α : Type} (r : Except Fault α) : Prop := ∃ b, r = .error (.breakdown b)

section Steps

variable {α β : Type}

@[simp] theorem not_breaksOff_ok (a : α) : ¬ BreaksOff (.ok a) := nofun

@[simp] theorem not_breaksOff_pure (a : α) : ¬ BreaksOff (pure a) := nofun

@[simp] theorem not_breaksOff_malformed (c : Cause) :
    ¬ BreaksOff (.error (.malformed c) : Except Fault α) := nofun

/-- What can only be malformed is not broken off. -/
@[simp] theorem not_breaksOff_orMalformed (r : Except Cause α) : ¬ BreaksOff (orMalformed r) := by
  cases r <;> exact nofun

/-- Two steps are broken off in the first one, or in the second one. -/
theorem breaksOff_bind {r : Except Fault α} {next : α → Except Fault β} :
    BreaksOff (r >>= next) ↔ BreaksOff r ∨ ∃ a, r = .ok a ∧ BreaksOff (next a) := by
  cases r with
  | error f =>
    constructor
    · rintro ⟨b, hb⟩
      exact .inl ⟨b, congrArg Except.error (Except.error.inj hb)⟩
    · rintro (⟨b, hb⟩ | ⟨a, ha, _⟩)
      · exact ⟨b, congrArg Except.error (Except.error.inj hb)⟩
      · cases ha
  | ok a =>
    constructor
    · exact fun h => .inr ⟨a, rfl, h⟩
    · rintro (⟨b, hb⟩ | ⟨a', ha', h⟩)
      · cases hb
      · obtain rfl := Except.ok.inj ha'
        exact h

/-- A step that can only be malformed leaves it to the second one. -/
theorem breaksOff_orMalformed_bind {r : Except Cause α} {next : α → Except Fault β} :
    BreaksOff (orMalformed r >>= next) ↔ ∃ a, r = .ok a ∧ BreaksOff (next a) := by
  have hok : ∀ a, orMalformed r = .ok a ↔ r = .ok a := fun a => by
    cases r with
    | error c => exact ⟨nofun, nofun⟩
    | ok a' => exact ⟨fun h => congrArg Except.ok (Except.ok.inj h),
        fun h => congrArg Except.ok (Except.ok.inj h)⟩
  rw [breaksOff_bind]
  simp only [not_breaksOff_orMalformed, false_or, hok]

end Steps

/-! ## 2. Dates -/

variable {e : Expression} {actual : Option String}

theorem text_eq_ok_iff {place : Nat} {parameter t : String} :
    e.text place parameter = .ok t ↔ e.argument? place = some t := by
  unfold Expression.text
  cases e.argument? place with
  | none => exact ⟨nofun, nofun⟩
  | some t' => exact ⟨fun h => congrArg some (Except.ok.inj h),
      fun h => congrArg Except.ok (Option.some.inj h)⟩

/-- Reading a date breaks off when there is one and its format asks for a part twice. -/
theorem dateOf_breaksOff_iff {format : String} {value : Option String} :
    BreaksOff (dateOf format value) ↔ value.isSome = true ∧ Calendar.asksTwice format = true := by
  cases value with
  | none => exact ⟨nofun, fun h => nomatch h.1⟩
  | some v =>
    have hread := Calendar.readDate_repeatedPart_iff format v .every
    unfold BreaksOff dateOf
    rw [← hread]
    cases Calendar.readDate format (some v) .every with
    | ok m => simp [Except.mapError]
    | error f => cases f <;> simp [Except.mapError]

/-- A format that asks for no part twice lets every date be read. -/
theorem not_breaksOff_dateOf {format : String} (h : Calendar.asksTwice format = false)
    (value : Option String) : ¬ BreaksOff (dateOf format value) := by
  rw [dateOf_breaksOff_iff, h]
  exact fun hbreaks => nomatch hbreaks.2

theorem date_breaksOff_iff {place : Nat} {format parameter : String} :
    BreaksOff (e.date place format parameter) ↔
      (e.argument? place).isSome = true ∧ Calendar.asksTwice format = true := by
  unfold Expression.date
  rw [breaksOff_orMalformed_bind, Option.isSome_iff_exists, ← exists_and_right]
  refine exists_congr fun t => and_congr text_eq_ok_iff ?_
  rw [breaksOff_bind, dateOf_breaksOff_iff]
  refine ⟨?_, fun h => .inl ⟨rfl, h⟩⟩
  rintro (h | ⟨_ | m, _, h⟩)
  · exact h.2
  · exact absurd h (not_breaksOff_malformed _)
  · exact absurd h (not_breaksOff_pure m)

/-- What comes behind the first date is broken off only with it. -/
theorem breaksOff_date_bind {β : Type} {place : Nat} {format parameter : String}
    {next : Calendar.Moment → Except Fault β}
    (hnext : Calendar.asksTwice format = false → ∀ m, ¬ BreaksOff (next m)) :
    BreaksOff (e.date place format parameter >>= next) ↔
      (e.argument? place).isSome = true ∧ Calendar.asksTwice format = true := by
  rw [breaksOff_bind, date_breaksOff_iff]
  refine ⟨?_, .inl⟩
  rintro (h | ⟨m, hm, h⟩)
  · exact h
  · cases hformat : Calendar.asksTwice format with
    | false => exact absurd h (hnext hformat m)
    | true =>
      cases hargument : e.argument? place with
      | some t => exact ⟨rfl, rfl⟩
      | none =>
        rw [Expression.date, Expression.text, hargument] at hm
        cases hm

/-! ## 3. Calls -/

/-- The place of the format among the arguments of a function that reads dates. -/
def Function.formatPlace? : Function → Option Nat
  | .isTimestamp => some 0
  | .isBeforeDate | .isAfterDate => some 1
  | .isBetweenDates => some 2
  | _ => none

/-- The text that a function reads first as a date: the actual value, or a date to compare it to. -/
def firstDate? (f : Function) (e : Expression) (actual : Option String) : Option String :=
  if f = .isTimestamp then actual else e.argument? 0

/-- Whether a call with the right number of arguments is broken off. -/
def callBreaksOff (f : Function) (e : Expression) (actual : Option String) : Bool :=
  f.formatPlace?.any fun place =>
    (e.argument? place).any Calendar.asksTwice && (firstDate? f e actual).isSome

/-- A call that reads its format, and then a date, breaks off when there is such a date and the
    format asks for a part twice. -/
theorem breaksOff_format_bind {β : Type} {place : Nat} {parameter : String} {first : Option String}
    {next : String → Except Fault β}
    (hnext : ∀ format, BreaksOff (next format) ↔
      first.isSome = true ∧ Calendar.asksTwice format = true) :
    BreaksOff (orMalformed (e.text place parameter) >>= next) ↔
      ((e.argument? place).any Calendar.asksTwice && first.isSome) = true := by
  rw [breaksOff_orMalformed_bind, Bool.and_eq_true, Option.any_eq_true, ← exists_and_right]
  refine exists_congr fun format => ?_
  rw [text_eq_ok_iff, hnext, and_comm (a := first.isSome = true), and_assoc]

theorem matchDateBound_breaksOff_iff (f : Function) :
    BreaksOff (matchDateBound f e actual) ↔
      ((e.argument? 1).any Calendar.asksTwice && (e.argument? 0).isSome) = true := by
  refine breaksOff_format_bind fun format => breaksOff_date_bind fun hformat bound => ?_
  -- the bound was read with the format, so the actual value can be
  rw [breaksOff_bind]
  rintro (h | ⟨_ | m, _, h⟩)
  · exact not_breaksOff_dateOf hformat actual h
  · exact not_breaksOff_pure _ h
  · exact not_breaksOff_pure _ h

theorem matchBetweenDates_breaksOff_iff :
    BreaksOff (matchBetweenDates e actual) ↔
      ((e.argument? 2).any Calendar.asksTwice && (e.argument? 0).isSome) = true := by
  refine breaksOff_format_bind fun format => breaksOff_date_bind fun hformat left => ?_
  rw [breaksOff_date_bind, hformat]
  · exact fun h => nomatch h.2
  · intro _ right
    rw [breaksOff_orMalformed_bind]
    rintro ⟨inclusion, _, h⟩
    rw [breaksOff_bind] at h
    obtain h | ⟨_ | m, _, h⟩ := h
    · exact not_breaksOff_dateOf hformat actual h
    · exact not_breaksOff_pure _ h
    · exact not_breaksOff_pure _ h

theorem matchTimestamp_breaksOff_iff :
    BreaksOff (matchCall .isTimestamp e actual) ↔
      ((e.argument? 0).any Calendar.asksTwice && actual.isSome) = true := by
  refine breaksOff_format_bind fun format => ?_
  rw [breaksOff_bind, dateOf_breaksOff_iff]
  refine ⟨?_, .inl⟩
  rintro (h | ⟨m, _, h⟩)
  · exact h
  · exact absurd h (not_breaksOff_pure _)

/-- A call breaks off over a date format only: every other function tells its faults. -/
theorem matchCall_breaksOff_iff (f : Function) :
    BreaksOff (matchCall f e actual) ↔ callBreaksOff f e actual = true := by
  cases f
  case isTimestamp => exact matchTimestamp_breaksOff_iff
  case isBeforeDate => exact matchDateBound_breaksOff_iff _
  case isAfterDate => exact matchDateBound_breaksOff_iff _
  case isBetweenDates => exact matchBetweenDates_breaksOff_iff
  all_goals exact iff_of_false (not_breaksOff_orMalformed _) Bool.false_ne_true

/-! ## 4. Expressions -/

/-- Whether a fault is one of the limits of what can be read as a pattern. -/
def isLimit : Pattern.Fault → Bool
  | .wideLookBehind | .countTooLarge | .countTooLong _ | .asciiAndUnicode => true
  | _ => false

/-- Whether the pattern of an expected value is beyond the limits of what can be read. -/
def beyondLimits (expected : String) : Bool :=
  match Pattern.read (patternText expected) with
  | .ok _ => false
  | .error f => isLimit f

/-- Whether an expression breaks its evaluation off. -/
def Expression.breaksOff (e : Expression) (actual : Option String) : Bool :=
  match e with
  | .pattern raw => beyondLimits raw
  | .call f arguments => (f.checkArity arguments.length).isOk && callBreaksOff f e actual
  | _ => false

/-- A fault of a pattern breaks the evaluation off when it is a limit. -/
theorem patternFault_breaksOff_iff {α : Type} (expected : String) (pattern : List Char)
    (f : Pattern.Fault) :
    BreaksOff (.error (patternFault expected pattern f) : Except Fault α) ↔ isLimit f = true := by
  cases f
  case malformed => exact iff_of_false (not_breaksOff_malformed _) Bool.false_ne_true
  case variableLookBehind => exact iff_of_false (not_breaksOff_malformed _) Bool.false_ne_true
  case templateRepeat => exact iff_of_false (not_breaksOff_malformed _) Bool.false_ne_true
  all_goals exact iff_of_true ⟨_, rfl⟩ rfl

theorem embeddedPattern_breaksOff_iff (expected : String) :
    BreaksOff (embeddedPattern expected) ↔ beyondLimits expected = true := by
  show BreaksOff ((Pattern.read (patternText expected)).mapError
    (patternFault expected (patternText expected))) ↔ _
  unfold beyondLimits
  cases Pattern.read (patternText expected) with
  | ok node => exact iff_of_false (not_breaksOff_ok node) Bool.false_ne_true
  | error f => exact patternFault_breaksOff_iff expected _ f

/-- **An evaluation breaks off** exactly when its expression does with the actual value. -/
theorem accepts_breaksOff_iff (e : Expression) (actual : Option String) (caseSensitive : Bool) :
    BreaksOff (e.accepts actual caseSensitive) ↔ e.breaksOff actual = true := by
  cases e with
  | literal expected => exact iff_of_false (not_breaksOff_ok _) Bool.false_ne_true
  | sentinel s => exact iff_of_false (not_breaksOff_ok _) Bool.false_ne_true
  | pattern raw =>
    refine Iff.trans breaksOff_bind (Iff.trans ?_ (embeddedPattern_breaksOff_iff raw))
    refine ⟨?_, .inl⟩
    rintro (h | ⟨node, _, h⟩)
    · exact h
    · exact absurd h (not_breaksOff_pure _)
  | call f arguments =>
    refine Iff.trans breaksOff_orMalformed_bind ?_
    unfold Expression.breaksOff
    rw [Bool.and_eq_true]
    cases f.checkArity arguments.length with
    | error c => exact iff_of_false (fun ⟨_, h, _⟩ => nomatch h) (fun h => nomatch h.1)
    | ok u =>
      rw [matchCall_breaksOff_iff]
      exact ⟨fun ⟨_, _, h⟩ => ⟨rfl, h⟩, fun h => ⟨u, rfl, h.2⟩⟩

example : (Expression.ofCell (some "\x7bpattern('a\x7b4294967295\x7d')\x7d")).breaksOff none =
    true := by decide +kernel

/-- A cell that is no expression is not broken off. -/
theorem breaksOff_of_literal {expected : Option String} (h : isExpression expected = false)
    (actual : Option String) : (Expression.ofCell expected).breaksOff actual = false := by
  rw [ofCell_of_literal h]
  rfl

/-! ## 5. Checks -/

/-- **A check gives a leaf** unless its expectation is compared and breaks off. -/
theorem check_returns_iff (name : String) (expected actual : Option String)
    (info : Option InfoRule) (caseSensitive : Bool) :
    (∃ leaf, check name expected actual info caseSensitive = .ok leaf) ↔
      info.any (·.applies expected) = true ∨
        (Expression.ofCell expected).breaksOff actual = false := by
  rw [← Bool.not_eq_true, ← accepts_breaksOff_iff (Expression.ofCell expected) actual caseSensitive]
  unfold check accepts
  cases info.any (·.applies expected) with
  | true => exact iff_of_true ⟨_, rfl⟩ (.inl rfl)
  | false =>
    cases (Expression.ofCell expected).accepts actual caseSensitive with
    | ok b => exact iff_of_true ⟨_, rfl⟩ (.inr (not_breaksOff_ok b))
    | error f =>
      cases f with
      | malformed c => exact iff_of_true ⟨_, rfl⟩ (.inr (not_breaksOff_malformed c))
      | breakdown b =>
        refine iff_of_false nofun ?_
        rintro (h | h)
        · cases h
        · exact h ⟨b, rfl⟩

end Reconcile.Expectation
