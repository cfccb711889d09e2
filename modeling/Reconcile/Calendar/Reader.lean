import Reconcile.Calendar.Format
import Reconcile.Calendar.LetterPattern
import Reconcile.Calendar.Moment
import Reconcile.Decimal.Reader
import Reconcile.Text.Casing

/-!
# Reading dates

A text is read with a date pattern: the pattern becomes a format, the format takes the text apart,
and the parts are put together to a moment. The day is given by year, month and day of the month
unless a number or a weekday says otherwise: the day of the year comes first, then a week with a
weekday, then a week of the year that weeks belong to. What is not given is the start of 1900.
-/

namespace Reconcile.Calendar

open Reconcile.Text

/-! ## 1. Parts of a date -/

/-- The parts of a date that were read. Weekdays count from Monday, which is 0. -/
structure Reading where
  year : Option Nat := none
  isoYear : Option Nat := none
  month : Nat := 1
  day : Nat := 1
  dayOfYear : Option Nat := none
  weekday : Option Nat := none
  /-- a week of the year, and whether weeks start on Monday -/
  week : Option (Nat × Bool) := none
  isoWeek : Option Nat := none
  hour : Nat := 0
  minute : Nat := 0
  second : Nat := 0
  microsecond : Nat := 0
  zone : Option Int := none
  deriving Repr

/-- The number written by decimal digits of any script. -/
def numberOf (cs : List Char) : Nat := Decimal.ofDigits (cs.filterMap digitValue?)

/-- The place of a name in a list of names, regardless of case. -/
def placeOf (names : List String) (cs : List Char) : Option Nat :=
  names.idxOf? (lower (String.ofList cs))

/-- The year of two digits: those below 69 belong to this century. -/
def centuryYear (n : Nat) : Nat := if n ≤ 68 then 2000 + n else 1900 + n

/-- An hour of a half of the day. -/
def hourOf (afternoon : Bool) (hour : Nat) : Nat := hour % 12 + (if afternoon then 12 else 0)

/-- Digits of parts of a second as microseconds. -/
def microsecondsOf (cs : List Char) : Nat := numberOf cs * Nat.pow 10 (6 - cs.length)

/-- A distance from universal time in microseconds. A colon before the minutes asks for one before
    the seconds. -/
def distanceOf? (cs : List Char) : Option Int :=
  if cs == ['Z'] then some 0
  else
    let body := cs.drop 1
    let hours := body.take 2
    let rest := body.drop 2
    let colon := rest.head? == some ':'
    let rest := if colon then rest.drop 1 else rest
    let minutes := rest.take 2
    let rest := rest.drop 2
    let seconds? : Option (List Char) :=
      match rest with
      | [] => some []
      | ':' :: more => if colon then some more else none
      | more => if colon then none else some more
    seconds?.map fun tail =>
      let whole := (numberOf hours * 60 + numberOf minutes) * 60 + numberOf (tail.take 2)
      let n : Int := (whole * 1000000 + microsecondsOf (tail.drop 3) : Nat)
      if cs.head? == some '-' then -n else n

/-- Takes one part over; `afternoon` is said by another part. -/
def Reading.take (afternoon : Bool) (r : Reading) (d : Directive) (cs : List Char) :
    Option Reading :=
  let n := numberOf cs
  match d with
  | .dayOfMonth => some { r with day := n }
  | .microsecond => some { r with microsecond := microsecondsOf cs }
  | .hour => some { r with hour := n }
  | .halfHour => some { r with hour := hourOf afternoon n }
  | .isoYear => some { r with isoYear := some n }
  | .dayOfYear => some { r with dayOfYear := some n }
  | .month => some { r with month := n }
  | .minute => some { r with minute := n }
  | .second => some { r with second := n }
  | .sundayWeek => some { r with week := some (n, false) }
  | .mondayWeek => some { r with week := some (n, true) }
  | .weekdayFromSunday => some { r with weekday := some ((n + 6) % 7) }
  | .weekdayFromMonday => some { r with weekday := some (n - 1) }
  | .isoWeek => some { r with isoWeek := some n }
  | .shortYear => some { r with year := some (centuryYear n) }
  | .year => some { r with year := some n }
  | .zone => (distanceOf? cs).map fun z => { r with zone := some z }
  | .weekdayName => (placeOf Directive.weekdayNames cs).map fun i => { r with weekday := some i }
  | .weekdayShort =>
    (placeOf Directive.shortWeekdayNames cs).map fun i => { r with weekday := some i }
  | .monthName => (placeOf Directive.monthNames cs).map fun i => { r with month := i + 1 }
  | .monthShort => (placeOf Directive.shortMonthNames cs).map fun i => { r with month := i + 1 }
  | .dayHalf | .zoneName => some r

/-- The parts of a date from what the directives took; later ones win. -/
def Reading.ofFields (fields : List (Directive × List Char)) : Option Reading :=
  let afternoon := match fields.lookup .dayHalf with
    | some cs => lower (String.ofList cs) == "pm"
    | none => false
  fields.foldlM (fun r (d, cs) => r.take afternoon d cs) {}

/-! ## 2. The day -/

/-- Which ISO years are looked at. The releases of the runtime differ here: the later ones look at
    every ISO year, the earlier ones only at one in the place of the year. -/
inductive IsoRule where
  | every
  | inPlaceOfYear
  deriving DecidableEq, Repr

/-- An ISO year that is looked at needs a week of it and a weekday, and goes with no day of the year.
    Without one, a week of an ISO year goes with nothing; where some ISO years are not looked at, it
    may stand beside a week of the year. -/
def Reading.isConsistent (rule : IsoRule) (r : Reading) : Bool :=
  let isComplete := r.dayOfYear.isNone && r.isoWeek.isSome && r.weekday.isSome
  match rule with
  | .every => if r.isoYear.isSome then isComplete else r.isoWeek.isNone
  | .inPlaceOfYear =>
    if r.year.isNone && r.isoYear.isSome then isComplete else r.week.isSome || r.isoWeek.isNone

/-- The number of a day in a week of a year whose first day is given. Week 0 holds the days before
    the first week starts. -/
def numberInWeek (first week weekday : Nat) (monday : Bool) : Int :=
  let shift := if monday then 0 else 1
  let start : Int := (weekdayOf first + shift) % 7
  let day : Int := (weekday + shift) % 7
  let start0 : Int := (7 - start) % 7
  first + day + (if week = 0 then -start else start0 + 7 * ((week : Int) - 1))

/-- The number of a day in a week of an ISO year; the first week holds the fourth of January. -/
def numberInIsoWeek (first week weekday : Nat) : Int :=
  first - 1 + (week : Int) * 7 + (weekday + 1 : Nat) - (weekdayOf (first + 3) + 1 + 3 : Nat)

/-- The day of a date. The last day of February without a year is looked for in a leap year, and is
    then not found in the year that stands for a missing one. -/
def Reading.day? (r : Reading) : Option Day := do
  let leapDay := r.year.isNone && r.month == 2 && r.day == 29
  let year := r.year.getD (if leapDay then 1904 else 1900)
  let day ←
    match r.dayOfYear, r.weekday, r.week, r.isoYear, r.isoWeek with
    | some n, _, _, _, _ => Day.ofNumber? ((← Day.firstOfYear? year) + n - 1 : Int)
    | none, some w, some (week, monday), _, _ =>
      Day.ofNumber? (numberInWeek (← Day.firstOfYear? year) week w monday)
    | none, some w, none, some isoYear, some isoWeek =>
      Day.ofNumber? (numberInIsoWeek (← Day.firstOfYear? isoYear) isoWeek w)
    | _, _, _, _, _ => Day.ofParts? year r.month r.day
  return if leapDay then { day with year := 1900 } else day

/-- The moment that the parts of a date give. -/
def Reading.moment? (rule : IsoRule) (r : Reading) : Option Moment :=
  if r.isConsistent rule then
    r.day?.bind fun d => Moment.ofParts? d r.hour r.minute r.second r.microsecond r.zone
  else none

/-! ## 3. Texts -/

/-- Why a text cannot be read with a date pattern: the pattern is malformed, or its format asks for
    the same part twice. -/
inductive Fault where
  | pattern (f : PatternFault)
  | repeatedPart (f : Pattern.Fault)
  deriving DecidableEq, Repr

/-- Reads a text with the directives of a pattern. -/
def readWith (rule : IsoRule) (directives : List Char) (value : String) :
    Except Fault (Option Moment) :=
  match readFormat? directives with
  | none => .ok none
  | some parts =>
    match FormatPart.repeated? parts with
    | some f => .error (.repeatedPart f)
    | none =>
      .ok ((FormatPart.scan parts value).bind fun fields =>
        (Reading.ofFields fields).bind (Reading.moment? rule))

/-- The moment a text gives with a date pattern, if it fits. An absent text gives none, whatever
    the pattern. -/
def readDate (pattern : String) (value : Option String) (rule : IsoRule := .every) :
    Except Fault (Option Moment) :=
  match value with
  | none => .ok none
  | some value =>
    match directivesOf pattern with
    | .error f => .error (.pattern f)
    | .ok directives => readWith rule directives value

end Reconcile.Calendar
