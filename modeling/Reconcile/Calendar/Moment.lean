import Reconcile.Calendar.Day

/-!
# Moments

A time on a day, with or without its distance from universal time. Moments with a distance are
compared by the instant they denote, moments without one by what they say.
-/

namespace Reconcile.Calendar

/-- A time on a day. The zone is the distance from universal time in microseconds. -/
structure Moment where
  day : Day
  hour : Nat
  minute : Nat
  second : Nat
  microsecond : Nat
  zone : Option Int
  deriving DecidableEq, Repr, Inhabited

namespace Moment

/-- The moment, if every part is in its range. -/
def ofParts? (day : Day) (hour minute second microsecond : Nat) (zone : Option Int) :
    Option Moment :=
  let inRange := day.isValid && hour < 24 && minute < 60 && second < 60 && microsecond < 1000000
  let zoneInRange := zone.all fun z => z.natAbs < 86400000000
  if inRange && zoneInRange then some ⟨day, hour, minute, second, microsecond, zone⟩ else none

/-- The microseconds from the day before year 1 on, in universal time when the zone is known. -/
def instant (m : Moment) : Int :=
  let seconds := ((m.day.number * 24 + m.hour) * 60 + m.minute) * 60 + m.second
  (seconds * 1000000 + m.microsecond : Nat) - m.zone.getD 0

/-- Whether two moments are the same; a moment with a zone differs from every one without. -/
def same (a b : Moment) : Bool := a.zone.isSome == b.zone.isSome && a.instant == b.instant

/-! ## The written form -/

/-- A number of at least the given count of digits. -/
def padded (width n : Nat) : String :=
  let s := toString n
  String.ofList (List.replicate (width - s.length) '0') ++ s

def dayText (d : Day) : String := padded 4 d.year ++ "-" ++ padded 2 d.month ++ "-" ++ padded 2 d.day

/-- A part of a second, when there is one. -/
def fractionText (microsecond : Nat) : String :=
  if microsecond = 0 then "" else "." ++ padded 6 microsecond

/-- A zone as it is written behind a time; seconds and their parts only when there are some. -/
def zoneText (zone : Int) : String :=
  let n := zone.natAbs
  let seconds := n / 1000000
  let tail := if n % 60000000 = 0 then ""
    else ":" ++ padded 2 (seconds % 60) ++ fractionText (n % 1000000)
  (if zone < 0 then "-" else "+") ++ padded 2 (seconds / 3600) ++ ":" ++
    padded 2 (seconds / 60 % 60) ++ tail

/-- The day, a separator, the time and the zone, when there is one. -/
def text (separator : String) (m : Moment) : String :=
  dayText m.day ++ separator ++ padded 2 m.hour ++ ":" ++ padded 2 m.minute ++ ":" ++
    padded 2 m.second ++ fractionText m.microsecond ++ (m.zone.map zoneText).getD ""

end Moment

end Reconcile.Calendar
