import Reconcile.Pattern.Node

/-!
# Directives

The parts of a date that a format can ask for, each with the pattern of the texts it takes.
Digits of every script count, except in the parts of a second. Where several readings are
possible the patterns list the longer ones first.
-/

namespace Reconcile.Calendar

open Reconcile.Pattern

/-- A part of a date. Weeks start on Sunday or on Monday; the numbers of weekdays start there
    too, from 0 for the first and from 1 for the second. -/
inductive Directive where
  | dayOfMonth
  | microsecond
  | hour
  | halfHour
  | isoYear
  | dayOfYear
  | month
  | minute
  | second
  | sundayWeek
  | mondayWeek
  | weekdayFromSunday
  | weekdayFromMonday
  | isoWeek
  | shortYear
  | year
  | zone
  | weekdayName
  | weekdayShort
  | monthName
  | monthShort
  | dayHalf
  | zoneName
  deriving DecidableEq, Repr

namespace Directive

/-- The directive of a letter. -/
def ofLetter? : Char → Option Directive
  | 'd' => some .dayOfMonth
  | 'f' => some .microsecond
  | 'H' => some .hour
  | 'I' => some .halfHour
  | 'G' => some .isoYear
  | 'j' => some .dayOfYear
  | 'm' => some .month
  | 'M' => some .minute
  | 'S' => some .second
  | 'U' => some .sundayWeek
  | 'W' => some .mondayWeek
  | 'w' => some .weekdayFromSunday
  | 'u' => some .weekdayFromMonday
  | 'V' => some .isoWeek
  | 'y' => some .shortYear
  | 'Y' => some .year
  | 'z' => some .zone
  | 'A' => some .weekdayName
  | 'a' => some .weekdayShort
  | 'B' => some .monthName
  | 'b' => some .monthShort
  | 'p' => some .dayHalf
  | 'Z' => some .zoneName
  | _ => none

/-- The letter of a directive. -/
def sign : Directive → Char
  | .dayOfMonth => 'd'
  | .microsecond => 'f'
  | .hour => 'H'
  | .halfHour => 'I'
  | .isoYear => 'G'
  | .dayOfYear => 'j'
  | .month => 'm'
  | .minute => 'M'
  | .second => 'S'
  | .sundayWeek => 'U'
  | .mondayWeek => 'W'
  | .weekdayFromSunday => 'w'
  | .weekdayFromMonday => 'u'
  | .isoWeek => 'V'
  | .shortYear => 'y'
  | .year => 'Y'
  | .zone => 'z'
  | .weekdayName => 'A'
  | .weekdayShort => 'a'
  | .monthName => 'B'
  | .monthShort => 'b'
  | .dayHalf => 'p'
  | .zoneName => 'Z'

theorem ofLetter?_sign (d : Directive) : ofLetter? d.sign = some d := by cases d <;> rfl

/-! ## 1. Names -/

/-- The names of the months, in order. -/
def monthNames : List String := [
  "january", "february", "march", "april", "may", "june", "july", "august", "september",
  "october", "november", "december"]

def shortMonthNames : List String := [
  "jan", "feb", "mar", "apr", "may", "jun", "jul", "aug", "sep", "oct", "nov", "dec"]

/-- The names of the weekdays, Monday first. -/
def weekdayNames : List String := [
  "monday", "tuesday", "wednesday", "thursday", "friday", "saturday", "sunday"]

def shortWeekdayNames : List String := ["mon", "tue", "wed", "thu", "fri", "sat", "sun"]

/-- The names of universal time. -/
def zoneNames : List String := ["utc", "gmt"]

/-! ## 2. Patterns -/

/-- A character in a range. -/
def oneOf (low high : Char) : Node := .one { items := [.range low.toNat high.toNat] }

/-- A decimal digit of any script. -/
def digit : Node := .one { items := [.named .digit false] }

/-- A character, regardless of case. -/
def letter (c : Char) : Node := .one { items := [.code c.toNat], ignoreCase := true }

def word (s : String) : Node := Node.sequence (s.toList.map letter)

def words (ss : List String) : Node := Node.alternatives (ss.map word)

def optional (n : Node) : Node := .loop .greedy 0 (some 1) n

/-- A character of one range and then one of another. -/
def pair (a b c d : Char) : Node := .seq (oneOf a b) (oneOf c d)

/-- A character of a range and then a digit. -/
def withDigit (a b : Char) : Node := .seq (oneOf a b) digit

def digits (count : Nat) : Node := Node.sequence (List.replicate count digit)

/-- A weekly number from 0 to 53. -/
def week : Node := Node.alternatives [pair '5' '5' '0' '3', withDigit '0' '4', digit]

/-- A distance from universal time: hours and minutes with or without a colon between them, and
    perhaps seconds and their parts; or the letter Z. -/
def zoneDistance : Node :=
  let colon := optional (.literal ':')
  let parts : Node := .seq (.literal '.') (.loop .greedy 1 (some 6) digit)
  let seconds := Node.sequence [colon, withDigit '0' '5', optional parts]
  let distance := Node.sequence
    [.one { items := [.code '+'.toNat, .code '-'.toNat] }, digits 2, colon, withDigit '0' '5',
      optional seconds]
  .alt distance (.literal 'Z')

/-- The texts a directive takes. -/
def node : Directive → Node
  | .dayOfMonth => Node.alternatives [pair '3' '3' '0' '1', withDigit '1' '2', pair '0' '0' '1' '9',
      oneOf '1' '9', .seq (.literal ' ') (oneOf '1' '9')]
  | .microsecond => .loop .greedy 1 (some 6) (oneOf '0' '9')
  | .hour => Node.alternatives [pair '2' '2' '0' '3', withDigit '0' '1', digit]
  | .halfHour | .month => Node.alternatives [pair '1' '1' '0' '2', pair '0' '0' '1' '9', oneOf '1' '9']
  | .isoYear | .year => digits 4
  | .dayOfYear => Node.alternatives [
      .seq (oneOf '3' '3') (pair '6' '6' '0' '6'), .seq (oneOf '3' '3') (withDigit '0' '5'),
      .seq (oneOf '1' '2') (digits 2), .seq (oneOf '0' '0') (withDigit '1' '9'),
      .seq (oneOf '0' '0') (pair '0' '0' '1' '9'), withDigit '1' '9', pair '0' '0' '1' '9',
      oneOf '1' '9']
  | .minute => Node.alternatives [withDigit '0' '5', digit]
  | .second => Node.alternatives [pair '6' '6' '0' '1', withDigit '0' '5', digit]
  | .sundayWeek | .mondayWeek => week
  | .weekdayFromSunday => oneOf '0' '6'
  | .weekdayFromMonday => oneOf '1' '7'
  | .isoWeek => Node.alternatives [pair '5' '5' '0' '3', pair '0' '0' '1' '9', withDigit '1' '4', digit]
  | .shortYear => digits 2
  | .zone => zoneDistance
  | .weekdayName => words weekdayNames
  | .weekdayShort => words shortWeekdayNames
  | .monthName => words monthNames
  | .monthShort => words shortMonthNames
  | .dayHalf => words ["am", "pm"]
  | .zoneName => words zoneNames

/-! ## 3. Written patterns -/

/-- Names as a written pattern lists them: the longest first, those of one length in their order. -/
def writtenWords (names : List String) : String :=
  "|".intercalate (names.mergeSort fun a b => b.length ≤ a.length)

/-- The pattern of a directive as it is written. -/
def written : Directive → String
  | .dayOfMonth => r"3[0-1]|[1-2]\d|0[1-9]|[1-9]| [1-9]"
  | .microsecond => "[0-9]\x7b1,6\x7d"
  | .hour => r"2[0-3]|[0-1]\d|\d"
  | .halfHour | .month => "1[0-2]|0[1-9]|[1-9]"
  | .isoYear | .year => r"\d\d\d\d"
  | .dayOfYear => r"36[0-6]|3[0-5]\d|[1-2]\d\d|0[1-9]\d|00[1-9]|[1-9]\d|0[1-9]|[1-9]"
  | .minute => r"[0-5]\d|\d"
  | .second => r"6[0-1]|[0-5]\d|\d"
  | .sundayWeek | .mondayWeek => r"5[0-3]|[0-4]\d|\d"
  | .weekdayFromSunday => "[0-6]"
  | .weekdayFromMonday => "[1-7]"
  | .isoWeek => r"5[0-3]|0[1-9]|[1-4]\d|\d"
  | .shortYear => r"\d\d"
  | .zone => r"[+-]\d\d:?[0-5]\d(:?[0-5]\d(\.\d" ++ "\x7b1,6\x7d)?)?|(?-i:Z)"
  | .weekdayName => writtenWords weekdayNames
  | .weekdayShort => writtenWords shortWeekdayNames
  | .monthName => writtenWords monthNames
  | .monthShort => writtenWords shortMonthNames
  | .dayHalf => "am|pm"
  | .zoneName => writtenWords zoneNames

/-- The groups in the written pattern of a directive, the one it stands in included. -/
def groupCount : Directive → Nat
  | .zone => 3
  | _ => 1

end Directive

end Reconcile.Calendar
