/-!
# Days

The days of the calendar from the first day of year 1 to the last of year 9999, counted from 1.
Years repeat in cycles of 400, 100, 4 and 1; a day is found from its number by taking out one
cycle after the other.
-/

namespace Reconcile.Calendar

/-- A day by year, month and day of the month. -/
structure Day where
  year : Nat
  month : Nat
  day : Nat
  deriving DecidableEq, Repr, Inhabited

/-! ## 1. Lengths -/

def isLeap (year : Nat) : Bool := year % 4 == 0 && (year % 100 != 0 || year % 400 == 0)

/-- The days of each month. -/
def monthLengths (leap : Bool) : List Nat :=
  [31, if leap then 29 else 28, 31, 30, 31, 30, 31, 31, 30, 31, 30, 31]

/-- The days of a month; there are none outside of 1 to 12. -/
def monthLength (year month : Nat) : Nat :=
  if month = 0 then 0 else (monthLengths (isLeap year))[month - 1]?.getD 0

/-- The days before a year. -/
def daysBeforeYear (year : Nat) : Nat :=
  let y := year - 1
  y * 365 + y / 4 - y / 100 + y / 400

/-! ## 2. Numbers of days -/

namespace Day

def lastYear : Nat := 9999

/-- Whether the day is in the calendar. -/
def isValid (d : Day) : Bool :=
  1 ≤ d.year && d.year ≤ lastYear && 1 ≤ d.day && d.day ≤ monthLength d.year d.month

/-- The day, if it is in the calendar. -/
def ofParts? (year month day : Nat) : Option Day :=
  if isValid ⟨year, month, day⟩ then some ⟨year, month, day⟩ else none

/-- The number of a day; the first day of year 1 has the number 1. -/
def number (d : Day) : Nat :=
  let before := (monthLengths (isLeap d.year)).take (d.month - 1)
  before.foldl (· + ·) (daysBeforeYear d.year) + d.day

/-- The number of the last day. -/
def lastNumber : Nat := number ⟨lastYear, 12, 31⟩

/-- The month and the day of the month of a day of the year, counted from 0. -/
def inMonths (month : Nat) : List Nat → Nat → Nat × Nat
  | [], n => (month, n + 1)
  | len :: rest, n => if n < len then (month, n + 1) else inMonths (month + 1) rest (n - len)

/-- The day with a number, if it is in the calendar. -/
def ofNumber? (number : Int) : Option Day :=
  if number < 1 || number > lastNumber then none
  else
    let n := number.toNat - 1
    let centuries := n % 146097
    let fours := centuries % 36524
    let ones := fours % 1461
    let year := n / 146097 * 400 + centuries / 36524 * 100 + fours / 1461 * 4 + ones / 365 + 1
    if centuries / 36524 = 4 || ones / 365 = 4 then some ⟨year - 1, 12, 31⟩
    else
      let (month, day) := inMonths 1 (monthLengths (isLeap year)) (ones % 365)
      some ⟨year, month, day⟩

/-- The number of the first day of a year, if the year is in the calendar. -/
def firstOfYear? (year : Nat) : Option Nat := (ofParts? year 1 1).map number

end Day

/-- The day of the week of the day with a number; Monday is 0. -/
def weekdayOf (number : Nat) : Nat := (number + 6) % 7

end Reconcile.Calendar
