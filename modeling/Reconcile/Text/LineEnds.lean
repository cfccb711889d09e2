/-!
# Text files

A text file holds its characters as UTF-8. A line of it ends with a line feed, a carriage return, or
both.
-/

namespace Reconcile.Text

/-- The text with a line feed for every line end. -/
def plainLineEnds : List Char → List Char
  | '\r' :: '\n' :: rest => '\n' :: plainLineEnds rest
  | '\r' :: rest => '\n' :: plainLineEnds rest
  | c :: rest => c :: plainLineEnds rest
  | [] => []

/-- The characters of a text file, with plain line ends; other bytes are no text. -/
def charsOf? (bytes : List UInt8) : Option (List Char) :=
  (String.fromUTF8? ⟨bytes.toArray⟩).map fun s => plainLineEnds s.toList

end Reconcile.Text
