import Reconcile.Proofs.Calendar.Zones
import Reconcile.Proofs.Decimal.Plain
import Reconcile.Proofs.Decimal.Value
import Reconcile.Proofs.Expectation.Breakdown
import Reconcile.Proofs.Expectation.Faults
import Reconcile.Proofs.Expectation.WrittenCalls

/-!
# Bounds of numbers and dates

The functions that compare an actual value with a bound agree with each other. An actual number lies
before a bound, at it or behind it, and the functions of one bound tell which; a range is what the
functions of its two bounds leave. What is no number is not accepted by any of them, not even as
different from the bound.

* `IsCall`, `isCall_callText`: a call, whatever quotes and blanks it is written with;
* `exists_evaluated`: how a call with such arguments is evaluated;
* `accepts_bound`, `accepts_between`: one bound of numbers, and two; `InOrder`,
  `inOrder_of_compares`: the answers of the functions of one bound;
* `IsDate`, `accepts_dateBound`, `accepts_betweenDates`: the same for dates; `any_contains`: a range of
  dates taken apart;
* **`bounds_agree`**: all of them.
-/

namespace Reconcile.Expectation

open Reconcile.Text
open Reconcile.Calendar (IsoRule)

/-! ## 1. Calls -/

/-- A text that is read as a call of a function, with arguments of these texts: whatever quotes they
    have, and less the blanks around them. -/
def IsCall (s : String) (f : Function) (texts : List String) : Prop :=
  ∃ arguments, Expression.ofText s = .call f arguments ∧
    arguments.map (fun a => trim a.text) = texts

/-- A call with its arguments all in quotes, or all without. -/
def callText (quoted : Bool) (f : Function) (texts : List String) : String :=
  String.ofList ('@' :: writtenCall f (texts.map (⟨·, quoted⟩)))

/-- A text that is a number, or says which bounds belong to a range. -/
def IsPlainText (t : String) : Prop :=
  (Decimal.read? t).isSome = true ∨ (Inclusion.ofName? t).isSome = true

theorem Inclusion.name_of_ofName? {t : String} {i : Inclusion} (h : Inclusion.ofName? t = some i) :
    i.name = t := by
  have hname := List.find?_some h
  exact eq_of_beq hname

/-- There are no characters in such a text that separate or surround arguments. -/
theorem IsPlainText.not_mem {t : String} (h : IsPlainText t) :
    ∀ c ∈ ['\'', ',', '{'], c ∉ t.toList := by
  intro c hc hmem
  obtain h | h := h
  · obtain ⟨d, hd⟩ := Option.isSome_iff_exists.mp h
    have hnumeral := Decimal.numeral_of_read? hd c hmem
    have hnone : (['\'', ',', '{'].all fun c => !Decimal.isNumeral c) = true := by decide +kernel
    have hnot := List.all_eq_true.mp hnone c hc
    rw [hnumeral] at hnot
    cases hnot
  · obtain ⟨i, hi⟩ := Option.isSome_iff_exists.mp h
    have hnone : (['\'', ',', '{'].all fun c => !i.name.toList.contains c) = true := by
      cases i <;> decide
    have hnot := List.all_eq_true.mp hnone c hc
    rw [Inclusion.name_of_ofName? hi, List.contains_iff_mem.mpr hmem] at hnot
    cases hnot

theorem IsPlainText.trim_eq {t : String} (h : IsPlainText t) : trim t = t := by
  obtain h | h := h
  · obtain ⟨d, hd⟩ := Option.isSome_iff_exists.mp h
    exact Decimal.trim_of_read? hd
  · obtain ⟨i, hi⟩ := Option.isSome_iff_exists.mp h
    rw [← Inclusion.name_of_ofName? hi]
    cases i <;> decide

theorem not_isPlainText_empty : ¬ IsPlainText "" := by
  rintro (h | h) <;> exact absurd h (by decide)

theorem IsPlainText.isPlain {t : String} (h : IsPlainText t) (quoted : Bool) :
    Argument.IsPlain ⟨t, quoted⟩ where
  noQuote := h.not_mem _ (by decide)
  noComma := fun _ => h.not_mem _ (by decide)
  trimmed := fun _ => h.trim_eq

/-- **A call that is written with such texts** is read as one. -/
theorem isCall_callText (quoted : Bool) (f : Function) {texts : List String} (hne : texts ≠ [])
    (htexts : ∀ t ∈ texts, IsPlainText t) : IsCall (callText quoted f texts) f texts := by
  have hplain : ∀ a ∈ texts.map (Argument.mk · quoted), a.IsPlain :=
    List.forall_mem_map.mpr fun t ht => (htexts t ht).isPlain quoted
  have hbrace : ∀ a ∈ texts.map (Argument.mk · quoted), '{' ∉ a.text.toList :=
    List.forall_mem_map.mpr fun t ht => (htexts t ht).not_mem _ (by decide)
  have hsingle : texts.map (Argument.mk · quoted) ≠ [⟨"", false⟩] := by
    intro h
    have hmem : ⟨"", false⟩ ∈ texts.map (Argument.mk · quoted) := h ▸ List.mem_cons_self
    obtain ⟨t, ht, htext⟩ := List.mem_map.mp hmem
    have hempty : t = "" := congrArg Argument.text htext
    exact not_isPlainText_empty (hempty ▸ htexts t ht)
  refine ⟨texts.map (Argument.mk · quoted), ofText_of_readCall? ?_ ?_, ?_⟩
  · have hcall : ¬ opening <:+: ['@'] ++ writtenCall f (texts.map (Argument.mk · quoted)) ++ [] :=
      not_opening_surrounded (by decide) (by decide) (not_opening_written f hbrace)
    rwa [List.append_nil] at hcall
  · have hsign : ['@'] = [] ∨ ['@'] = ['@'] := .inr rfl
    have htrim := trimChars_writtenCall f (texts.map (Argument.mk · quoted)) (List.forall_mem_nil _)
      hsign (List.forall_mem_nil _)
    rw [List.append_nil, List.nil_append] at htrim
    exact (congrArg readCall? htrim).trans
      (readCall?_written f hplain (mt List.map_eq_nil_iff.mp hne) hsingle hsign)
  · rw [List.map_map]
    exact (List.map_congr_left fun t ht => (htexts t ht).trim_eq).trans (List.map_id texts)

/-! ## 2. Arguments -/

section Arguments

variable {e : Expression} {place : Nat} {t : String}

theorem argument?_call (f : Function) (arguments : List Argument) (place : Nat) :
    (Expression.call f arguments).argument? place =
      ((arguments.map fun a => trim a.text)[place]?).filter (!·.isEmpty) := by
  unfold Expression.argument? Expression.arguments
  rw [List.getElem?_map]
  cases arguments[place]? with
  | none => rfl
  | some a =>
    dsimp only [Option.map_some]
    cases h : (trim a.text).isEmpty <;> simp [Option.filter, h]

/-- **A call is evaluated** with the texts of its arguments; those that are empty are omitted. -/
theorem exists_evaluated {s : String} {f : Function} {texts : List String} (h : IsCall s f texts)
    (harity : f.checkArity texts.length = .ok ()) :
    ∃ e : Expression, (∀ place, e.argument? place = texts[place]?.filter (!·.isEmpty)) ∧
      ∀ actual caseSensitive rule,
        accepts (some s) actual caseSensitive rule = matchCall f e actual rule := by
  obtain ⟨arguments, hread, rfl⟩ := h
  rw [List.length_map] at harity
  refine ⟨.call f arguments, argument?_call f arguments, fun actual caseSensitive rule => ?_⟩
  show (Expression.ofText s).accepts actual caseSensitive rule = _
  rw [hread, Expression.accepts, harity]
  rfl

theorem argument?_some (h : e.argument? place = (some t).filter (!·.isEmpty)) (ht : t ≠ "") :
    e.argument? place = some t := by
  rw [h, Option.filter_some, if_pos]
  simpa using ht

/-- An argument that is written. -/
theorem text_eq (h : e.argument? place = (some t).filter (!·.isEmpty)) (ht : t ≠ "")
    (parameter : String) : e.text place parameter = .ok t := text_eq_ok_iff.mpr (argument?_some h ht)

theorem ne_empty_of_read? {d : Decimal} (h : Decimal.read? t = some d) : t ≠ "" := by
  rintro rfl
  have hnone : Decimal.read? "" = none := by decide
  rw [hnone] at h
  cases h

/-- An argument that is written, and is a number. -/
theorem decimal_eq {d : Decimal} (h : e.argument? place = (some t).filter (!·.isEmpty))
    (ht : Decimal.read? t = some d) (parameter : String) :
    e.decimal place parameter = .ok d := by
  have hsome := argument?_some h (ne_empty_of_read? ht)
  unfold Expression.decimal Expression.decimal?
  rw [hsome]
  dsimp only
  rw [ht]
  rfl

/-- The arguments that say which bounds belong to a range: the name for it, or nothing for none. -/
inductive Inclusion.SaidBy : Inclusion → List String → Prop
  | named (i : Inclusion) : SaidBy i [i.name]
  | empty : SaidBy .none [""]
  | omitted : SaidBy .none []

theorem inclusion_eq {i : Inclusion} {mode : List String} (h : i.SaidBy mode)
    (hargument : e.argument? place = mode[0]?.filter (!·.isEmpty)) :
    e.inclusion place = .ok i := by
  unfold Expression.inclusion
  rw [hargument]
  cases h with
  | named => cases i <;> rfl
  | empty => rfl
  | omitted => rfl

end Arguments

/-! ## 3. Numbers -/

/-- The functions that compare an actual number with one bound. -/
def boundFunctions : List Function :=
  [.isLessThan, .isLessOrEqual, .isGreaterThan, .isGreaterOrEqual, .asNumber, .isNotEqualNumber]

/-- Whether the order of an actual number to its bound is what a function asks for. -/
def Function.asks (f : Function) (toBound : Ordering) : Bool :=
  match f with
  | .asNumber => toBound == .eq
  | .isNotEqualNumber => toBound != .eq
  | _ => f.wants toBound

/-- The function of the left bound alone, when the bound belongs to the range and when not. -/
def Inclusion.lower (i : Inclusion) : Function :=
  if i.includesLeft then .isGreaterOrEqual else .isGreaterThan

/-- The function of the right bound alone. -/
def Inclusion.upper (i : Inclusion) : Function :=
  if i.includesRight then .isLessOrEqual else .isLessThan

/-- A value is in a range when the functions of both bounds ask for it. -/
theorem Inclusion.contains_eq (i : Inclusion) (toLeft toRight : Ordering) :
    i.contains toLeft toRight = (i.lower.asks toLeft && i.upper.asks toRight) := by
  cases i <;> cases toLeft <;> cases toRight <;> rfl

theorem Inclusion.lower_mem (i : Inclusion) : i.lower ∈ boundFunctions := by
  cases i <;> decide

theorem Inclusion.upper_mem (i : Inclusion) : i.upper ∈ boundFunctions := by
  cases i <;> decide

section Numbers

variable {s : String} {f : Function} {n l r : String} {bound left right : Decimal}
  (actual : Option String) (caseSensitive : Bool) (rule : IsoRule)

theorem matchNumberBound_eq {e : Expression}
    (h : ∀ parameter, e.decimal 0 parameter = .ok bound) :
    matchNumberBound f e actual =
      .ok ((Decimal.readCell? actual).any fun v => f.wants (v.compare bound)) := by
  rw [matchNumberBound, h]
  cases Decimal.readCell? actual <;> rfl

/-- Without a margin and a scale, numbers agree when they are the same. -/
theorem matchNumber_eq {e : Expression} (h : ∀ parameter, e.decimal 0 parameter = .ok bound)
    (hmargin : e.argument? 1 = none) (hscale : e.argument? 2 = none)
    (hf : f = .asNumber ∨ f = .isNotEqualNumber) :
    matchNumber f e actual =
      .ok ((Decimal.readCell? actual).any fun v => f.asks (v.compare bound)) := by
  have hsame : ∀ v, bound.same v = (v.compare bound == .eq) := fun v => by
    have hcomm : bound.same v = true ↔ v.same bound = true := by
      rw [Decimal.same_iff, Decimal.same_iff, eq_comm]
    exact Bool.eq_iff_iff.mpr hcomm
  rw [matchNumber, h, Expression.decimal?, hmargin, Expression.integer?, hscale]
  cases Decimal.readCell? actual with
  | none => rfl
  | some v =>
    obtain rfl | rfl := hf
    · exact congrArg Except.ok (hsame v)
    · exact congrArg (fun b => Except.ok !b) (hsame v)

/-- **One bound.** The answer is the order of the actual number to it, if there is such a number. -/
theorem accepts_bound (hf : f ∈ boundFunctions) (hcall : IsCall s f [n])
    (hn : Decimal.read? n = some bound) :
    accepts (some s) actual caseSensitive rule =
      .ok ((Decimal.readCell? actual).any fun v => f.asks (v.compare bound)) := by
  have harity : ∀ f ∈ boundFunctions, f.checkArity 1 = .ok () := by decide
  obtain ⟨e, hargument, haccepts⟩ := exists_evaluated hcall (harity f hf)
  have hdecimal := decimal_eq (hargument 0) hn
  rw [haccepts]
  simp only [boundFunctions, List.mem_cons, List.not_mem_nil, or_false] at hf
  obtain rfl | rfl | rfl | rfl | hf := hf
  · exact congrArg orMalformed (matchNumberBound_eq actual hdecimal)
  · exact congrArg orMalformed (matchNumberBound_eq actual hdecimal)
  · exact congrArg orMalformed (matchNumberBound_eq actual hdecimal)
  · exact congrArg orMalformed (matchNumberBound_eq actual hdecimal)
  · have hnumber := matchNumber_eq actual hdecimal (hargument 1) (hargument 2) hf
    obtain rfl | rfl := hf
    · exact congrArg orMalformed hnumber
    · exact congrArg orMalformed hnumber

/-- **Two bounds.** The answer says whether the actual number is in the range. -/
theorem accepts_between {i : Inclusion} {mode : List String} (hmode : i.SaidBy mode)
    (hcall : IsCall s .isBetween (l :: r :: mode)) (hl : Decimal.read? l = some left)
    (hr : Decimal.read? r = some right) :
    accepts (some s) actual caseSensitive rule =
      .ok ((Decimal.readCell? actual).any fun v =>
        i.contains (v.compare left) (v.compare right)) := by
  have harity : Function.checkArity .isBetween (l :: r :: mode).length = .ok () := by
    cases hmode <;> rfl
  obtain ⟨e, hargument, haccepts⟩ := exists_evaluated hcall harity
  rw [haccepts]
  show orMalformed (matchBetween e actual) = _
  rw [matchBetween, decimal_eq (hargument 0) hl, decimal_eq (hargument 1) hr,
    inclusion_eq hmode (hargument 2)]
  cases Decimal.readCell? actual <;> rfl

end Numbers

/-- The answers of the functions of one bound to a number before it, at it or behind it. -/
structure InOrder (answer : Function → Except Fault Bool) (less equal greater : Bool) : Prop where
  exactlyOne : [less, equal, greater].count true = 1
  isLessThan : answer .isLessThan = .ok less
  asNumber : answer .asNumber = .ok equal
  isGreaterThan : answer .isGreaterThan = .ok greater
  isLessOrEqual : answer .isLessOrEqual = .ok (less || equal)
  isGreaterOrEqual : answer .isGreaterOrEqual = .ok (greater || equal)
  isNotEqualNumber : answer .isNotEqualNumber = .ok !equal

/-- Functions that ask for the order of two numbers have answers that go together. -/
theorem inOrder_of_compares {answer : Function → Except Fault Bool} {toBound : Ordering} {x y : ℚ}
    (hanswer : ∀ f ∈ boundFunctions, answer f = .ok (f.asks toBound))
    (horder : toBound.Compares x y) :
    InOrder answer (decide (x < y)) (decide (x = y)) (decide (y < x)) := by
  have hless : decide (x < y) = (toBound == .lt) := by
    rw [Bool.eq_iff_iff, decide_eq_true_iff, beq_iff_eq, horder.eq_lt]
  have hequal : decide (x = y) = (toBound == .eq) := by
    rw [Bool.eq_iff_iff, decide_eq_true_iff, beq_iff_eq, horder.eq_eq]
  have hgreater : decide (y < x) = (toBound == .gt) := by
    rw [Bool.eq_iff_iff, decide_eq_true_iff, beq_iff_eq, horder.eq_gt]
  rw [hless, hequal, hgreater]
  constructor
  case exactlyOne => cases toBound <;> rfl
  case isLessOrEqual =>
    rw [hanswer _ (by decide)]
    cases toBound <;> rfl
  case isGreaterOrEqual =>
    rw [hanswer _ (by decide)]
    cases toBound <;> rfl
  all_goals exact hanswer _ (by decide)

/-! ## 4. Dates -/

/-- The date that a value is in a format, if it is one. -/
def dateIn? (rule : IsoRule) (format : String) (actual : Option String) :
    Option Calendar.Moment :=
  (Calendar.readDate format actual rule).toOption.join

/-- Whether a value is a date in a format, and the same one as a bound. -/
def fallsOn (rule : IsoRule) (format : String) (bound : Calendar.Moment)
    (actual : Option String) : Bool :=
  (dateIn? rule format actual).any (·.same bound)

/-- The text of an argument is a date in a format, and says which; an argument that is empty would be
    left out. -/
structure IsDate (rule : IsoRule) (format text : String) (m : Calendar.Moment) : Prop where
  givesFormat : format ≠ ""
  givesText : text ≠ ""
  isRead : Calendar.readDate format (some text) rule = .ok (some m)

section Dates

open Calendar

variable {s format l r : String} {bound left right : Moment} {e : Expression} {f : Function}
  {rule : IsoRule} (actual : Option String) (caseSensitive : Bool)

/-- A format that a date was read with can read every value. -/
theorem IsDate.readDate_eq (h : IsDate rule format l bound) :
    readDate format actual rule = .ok (dateIn? rule format actual) := by
  cases actual with
  | none => rfl
  | some value =>
    obtain ⟨m, hm, _⟩ := (readDate_failAlike format l value rule).of_ok h.isRead
    rw [dateIn?, hm]
    rfl

theorem IsDate.dateOf_eq (h : IsDate rule format l bound) :
    dateOf format actual rule = .ok (dateIn? rule format actual) := by
  rw [dateOf, h.readDate_eq actual]
  rfl

/-- An argument that is written, and is a date in the format. -/
theorem IsDate.date_eq {place : Nat} (h : IsDate rule format l bound)
    (hargument : e.argument? place = (some l).filter (!·.isEmpty)) (parameter : String) :
    e.date place format parameter rule = .ok bound := by
  have htext := congrArg orMalformed (text_eq hargument h.givesText parameter)
  have hdate : dateOf format (some l) rule = .ok (some bound) := by
    rw [dateOf, h.isRead]
    rfl
  exact bind_ok_iff.mpr ⟨l, htext, bind_ok_iff.mpr ⟨some bound, hdate, rfl⟩⟩

/-- **One date.** The answer is the order of the actual date to it, if there is such a date. -/
theorem accepts_dateBound (hf : f = .isAfterDate ∨ f = .isBeforeDate)
    (hcall : IsCall s f [l, format]) (h : IsDate rule format l bound) :
    accepts (some s) actual caseSensitive rule =
      .ok ((dateIn? rule format actual).any fun m => f.wants (compareMoments m bound)) := by
  have harity : f.checkArity [l, format].length = .ok () := by
    obtain rfl | rfl := hf <;> rfl
  obtain ⟨e, hargument, haccepts⟩ := exists_evaluated hcall harity
  have hformat := congrArg orMalformed (text_eq (hargument 1) h.givesFormat "Format")
  have hbound := h.date_eq (hargument 0) "Date"
  have hmatch : matchDateBound f e actual rule =
      .ok ((dateIn? rule format actual).any fun m => f.wants (compareMoments m bound)) := by
    refine bind_ok_iff.mpr ⟨format, hformat, bind_ok_iff.mpr ⟨bound, hbound, bind_ok_iff.mpr
      ⟨_, h.dateOf_eq actual, ?_⟩⟩⟩
    cases dateIn? rule format actual <;> rfl
  rw [haccepts]
  obtain rfl | rfl := hf <;> exact hmatch

/-- **Two dates.** The answer says whether the actual date is in the range. -/
theorem accepts_betweenDates {i : Inclusion} {mode : List String} (hmode : i.SaidBy mode)
    (hcall : IsCall s .isBetweenDates (l :: r :: format :: mode)) (hl : IsDate rule format l left)
    (hr : IsDate rule format r right) :
    accepts (some s) actual caseSensitive rule =
      .ok ((dateIn? rule format actual).any fun m =>
        i.contains (compareMoments m left) (compareMoments m right)) := by
  have harity : Function.checkArity .isBetweenDates (l :: r :: format :: mode).length = .ok () := by
    cases hmode <;> rfl
  obtain ⟨e, hargument, haccepts⟩ := exists_evaluated hcall harity
  have hformat := congrArg orMalformed (text_eq (hargument 2) hl.givesFormat "Format")
  have hleft := hl.date_eq (hargument 0) "Left date"
  have hright := hr.date_eq (hargument 1) "Right date"
  have hinclusion := congrArg orMalformed (inclusion_eq hmode (hargument 3))
  rw [haccepts]
  refine bind_ok_iff.mpr ⟨format, hformat, bind_ok_iff.mpr ⟨left, hleft, bind_ok_iff.mpr
    ⟨right, hright, bind_ok_iff.mpr ⟨i, hinclusion, bind_ok_iff.mpr
      ⟨_, hl.dateOf_eq actual, ?_⟩⟩⟩⟩⟩
  cases dateIn? rule format actual <;> rfl

/-- Of two dates of one format neither is before the other exactly when they are the same. -/
theorem IsDate.compareMoments_eq (h : IsDate rule format l bound) {m : Moment}
    (hm : readDate format actual rule = .ok (some m)) :
    (compareMoments m bound == .eq) = m.same bound := by
  rw [same_iff_of_readDate hm h.isRead, Bool.eq_iff_iff, beq_iff_eq, beq_iff_eq]
  exact compare_eq_iff_eq

/-- A date is in a range when it is behind the left bound and before the right one, or at one of
    them that belongs to the range. -/
theorem any_contains (i : Inclusion) (hl : IsDate rule format l left)
    (hr : IsDate rule format r right) :
    ((dateIn? rule format actual).any fun m =>
        i.contains (compareMoments m left) (compareMoments m right)) =
      (((dateIn? rule format actual).any (fun m =>
          Function.isAfterDate.wants (compareMoments m left)) ||
        i.includesLeft && fallsOn rule format left actual) &&
      ((dateIn? rule format actual).any (fun m =>
          Function.isBeforeDate.wants (compareMoments m right)) ||
        i.includesRight && fallsOn rule format right actual)) := by
  unfold fallsOn
  have hread := hl.readDate_eq actual
  cases hdate : dateIn? rule format actual with
  | none => simp
  | some m =>
    rw [hdate] at hread
    have hleft := hl.compareMoments_eq actual hread
    have hright := hr.compareMoments_eq actual hread
    simp only [Option.any_some, ← hleft, ← hright]
    rfl

end Dates

/-! ## 5. Numbers and dates -/

/-- **The functions of bounds agree with each other**, whatever the actual value is and whichever ISO
    years are looked at.

    1. A call that is written with numbers and the names of inclusions is read as one.
    2. A value that is no number is not accepted by a function of a number, and of a number exactly
       one of before, equal and behind is true; the other functions are made of these.
    3. A range of numbers is what the functions of both bounds accept.
    4. A range of dates is what the functions of both bounds accept, where a bound that belongs to the
       range is accepted as well. -/
theorem bounds_agree (actual : Option String) (caseSensitive : Bool) (rule : IsoRule) :
    (∀ (quoted : Bool) (f : Function) (texts : List String), texts ≠ [] →
      (∀ t ∈ texts, IsPlainText t) → IsCall (callText quoted f texts) f texts) ∧
    (∀ (n : String) (bound : Decimal) (say : Function → String), Decimal.read? n = some bound →
      (∀ f ∈ boundFunctions, IsCall (say f) f [n]) →
      (Decimal.readCell? actual = none → ∀ f ∈ boundFunctions,
        accepts (some (say f)) actual caseSensitive rule = .ok false) ∧
      (∀ v, Decimal.readCell? actual = some v →
        InOrder (fun f => accepts (some (say f)) actual caseSensitive rule)
          (decide (v.toRat < bound.toRat)) (decide (v.toRat = bound.toRat))
          (decide (bound.toRat < v.toRat)))) ∧
    (∀ (l r : String) (left right : Decimal) (i : Inclusion) (mode : List String)
      (between above below : String), Decimal.read? l = some left → Decimal.read? r = some right →
      i.SaidBy mode → IsCall between .isBetween (l :: r :: mode) → IsCall above i.lower [l] →
      IsCall below i.upper [r] →
      (Decimal.readCell? actual = none →
        accepts (some between) actual caseSensitive rule = .ok false) ∧
      ∃ isAbove isBelow, accepts (some above) actual caseSensitive rule = .ok isAbove ∧
        accepts (some below) actual caseSensitive rule = .ok isBelow ∧
        accepts (some between) actual caseSensitive rule = .ok (isAbove && isBelow)) ∧
    (∀ (format l r : String) (left right : Calendar.Moment) (i : Inclusion) (mode : List String)
      (between after before : String), IsDate rule format l left → IsDate rule format r right →
      i.SaidBy mode → IsCall between .isBetweenDates (l :: r :: format :: mode) →
      IsCall after .isAfterDate [l, format] → IsCall before .isBeforeDate [r, format] →
      ∃ isAfter isBefore, accepts (some after) actual caseSensitive rule = .ok isAfter ∧
        accepts (some before) actual caseSensitive rule = .ok isBefore ∧
        accepts (some between) actual caseSensitive rule =
          .ok ((isAfter || i.includesLeft && fallsOn rule format left actual) &&
            (isBefore || i.includesRight && fallsOn rule format right actual))) := by
  refine ⟨fun quoted f texts => isCall_callText quoted f, ?_, ?_, ?_⟩
  · intro n bound say hn hsay
    have hanswer := fun f hf => accepts_bound actual caseSensitive rule hf (hsay f hf) hn
    constructor
    · intro hnone f hf
      rw [hanswer f hf, hnone]
      rfl
    · intro v hv
      refine inOrder_of_compares (fun f hf => ?_) (Decimal.compares_toRat v bound)
      rw [hanswer f hf, hv]
      rfl
  · intro l r left right i mode between above below hl hr hmode hbetween habove hbelow
    have hanswer := accepts_between actual caseSensitive rule hmode hbetween hl hr
    refine ⟨fun hnone => ?_, _, _, accepts_bound actual caseSensitive rule i.lower_mem habove hl,
      accepts_bound actual caseSensitive rule i.upper_mem hbelow hr, ?_⟩
    · rw [hanswer, hnone]
      rfl
    · rw [hanswer]
      cases Decimal.readCell? actual with
      | none => rfl
      | some v => exact congrArg Except.ok (i.contains_eq _ _)
  · intro format l r left right i mode between after before hl hr hmode hbetween hafter hbefore
    refine ⟨_, _, accepts_dateBound actual caseSensitive (.inl rfl) hafter hl,
      accepts_dateBound actual caseSensitive (.inr rfl) hbefore hr, ?_⟩
    rw [accepts_betweenDates actual caseSensitive hmode hbetween hl hr, any_contains actual i hl hr]

/-- A number at a bound, and a text that is none; a number and a date at the left bound of a range, in
    calls that are written in several ways. The date has an ISO year beside its year. -/
theorem bounds_agree_at_bound :
    InOrder (fun f => accepts (some (callText false f ["2.0"])) (some "2") true) false true false ∧
    accepts (some (callText false .isNotEqualNumber ["2.0"])) (some "2L") true = .ok false ∧
    (∃ isAbove isBelow,
      accepts (some (callText true .isGreaterOrEqual ["2.0"])) (some "2") true = .ok isAbove ∧
      accepts (some "\x7bisLessThan( 4 )\x7d") (some "2") true = .ok isBelow ∧
      accepts (some "@\x7bisBetween(2.0, 4, 'includeLeft')\x7d") (some "2") true =
        .ok (isAbove && isBelow)) ∧
    ∃ isAfter isBefore,
      accepts (some "@\x7bisAfterDate('2020 2021 5 1', %Y %G %V %u)\x7d") (some "2020 2021 5 1")
        true = .ok isAfter ∧
      accepts (some "@\x7bisBeforeDate('2020 2021 5 3', '%Y %G %V %u')\x7d") (some "2020 2021 5 1")
        true = .ok isBefore ∧
      accepts
        (some "@\x7bisBetweenDates('2020 2021 5 1', '2020 2021 5 3', '%Y %G %V %u', includeLeft)\x7d")
        (some "2020 2021 5 1") true = .ok ((isAfter || true) && (isBefore || false)) := by
  obtain ⟨hwritten, hnumber, hrange, -⟩ := bounds_agree (some "2") true .every
  have hplain : ∀ t ∈ ["2.0"], IsPlainText t := List.forall_mem_singleton.mpr (.inl (by decide))
  have hsay : ∀ f ∈ boundFunctions, IsCall (callText false f ["2.0"]) f ["2.0"] :=
    fun f _ => hwritten false f ["2.0"] (by decide) hplain
  have hbound : Decimal.read? "2.0" = some ⟨false, 20, -1⟩ := by decide
  refine ⟨?_, ?_, ?_, ?_⟩
  · have horder := (hnumber "2.0" _ _ hbound hsay).2 ⟨false, 2, 0⟩ (by decide)
    have htwo : Decimal.toRat ⟨false, 2, 0⟩ = Decimal.toRat ⟨false, 20, -1⟩ := by
      norm_num [Decimal.toRat, Decimal.signed]
    simpa only [htwo, lt_irrefl, decide_false, decide_true] using horder
  · have hnone := (bounds_agree (some "2L") true .every).2.1 "2.0" _ _ hbound hsay
    exact hnone.1 (by decide) _ (by decide)
  · exact (hrange "2.0" "4" _ _ .includeLeft ["includeLeft"] _ _ _ hbound rfl (.named _)
      ⟨[⟨"2.0", false⟩, ⟨"4", false⟩, ⟨"includeLeft", true⟩], by decide, by decide⟩
      (hwritten true .isGreaterOrEqual ["2.0"] (by decide) hplain)
      ⟨[⟨"4", false⟩], by decide, by decide⟩).2
  · have hfirst : IsDate .every "%Y %G %V %u" "2020 2021 5 1" ⟨⟨2021, 2, 1⟩, 0, 0, 0, 0, none⟩ :=
      ⟨by decide, by decide, by decide +kernel⟩
    have hthird : IsDate .every "%Y %G %V %u" "2020 2021 5 3" ⟨⟨2021, 2, 3⟩, 0, 0, 0, 0, none⟩ :=
      ⟨by decide, by decide, by decide +kernel⟩
    have hfalls : fallsOn .every "%Y %G %V %u" ⟨⟨2021, 2, 1⟩, 0, 0, 0, 0, none⟩
        (some "2020 2021 5 1") = true := by decide +kernel
    have hdates := (bounds_agree (some "2020 2021 5 1") true .every).2.2.2 _ _ _ _ _ .includeLeft
      ["includeLeft"]
      "@\x7bisBetweenDates('2020 2021 5 1', '2020 2021 5 3', '%Y %G %V %u', includeLeft)\x7d"
      "@\x7bisAfterDate('2020 2021 5 1', %Y %G %V %u)\x7d"
      "@\x7bisBeforeDate('2020 2021 5 3', '%Y %G %V %u')\x7d" hfirst hthird (.named _)
      ⟨[⟨"2020 2021 5 1", true⟩, ⟨"2020 2021 5 3", true⟩, ⟨"%Y %G %V %u", true⟩,
        ⟨"includeLeft", false⟩], by decide, by decide⟩
      ⟨[⟨"2020 2021 5 1", true⟩, ⟨"%Y %G %V %u", false⟩], by decide, by decide⟩
      ⟨[⟨"2020 2021 5 3", true⟩, ⟨"%Y %G %V %u", true⟩], by decide, by decide⟩
    rw [hfalls] at hdates
    exact hdates

end Reconcile.Expectation
