/-!
# Shortened values

How a value of a cell is put into a log: an absent one is named, and a long one is cut off with
three dots behind it, so that a single row never floods the log.
-/

namespace Reconcile.Journal

/-- The number of characters of a value that a log shows. -/
def shownLength : Int := 64

/-- The characters before an end that counts from the front, or from the back when negative. -/
def cutAt (cs : List Char) (stop : Int) : List Char :=
  if stop < 0 then cs.take ((cs.length : Int) + stop).toNat else cs.take stop.toNat

/-- The value, cut off when it is longer than the limit. -/
def shortenText (text : String) (limit : Int := shownLength) : String :=
  if (text.length : Int) ≤ limit then text
  else String.ofList (cutAt text.toList limit) ++ "..."

/-- A value that may be absent. -/
def shorten (limit : Int := shownLength) : Option String → String
  | none => "<absent>"
  | some text => shortenText text limit

end Reconcile.Journal
