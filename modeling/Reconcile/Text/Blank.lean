import Reconcile.Text.Ranges

/-!
# White space

The characters that count as blank, and the removal of blanks from both ends of a text. Cells,
arguments and settings are read without their surrounding blanks everywhere, so all parts of the
library share this one class: the white space of Unicode together with the four separators
U+001C to U+001F.
-/

namespace Reconcile.Text

/-- The blank characters. -/
def blankRanges : Ranges := [
  (0x9, 0xd), (0x1c, 0x20), (0x85, 0x85), (0xa0, 0xa0), (0x1680, 0x1680), (0x2000, 0x200a),
  (0x2028, 0x2029), (0x202f, 0x202f), (0x205f, 0x205f), (0x3000, 0x3000)]

/-- A blank is a white space character of Unicode or one of the separators U+001C to U+001F. -/
def isBlank (c : Char) : Bool := blankRanges.has c.toNat

/-- The characters without the blanks at the front. -/
def dropBlanks (s : List Char) : List Char := s.dropWhile isBlank

/-- The characters without the blanks at either end. -/
def trimChars (s : List Char) : List Char := (dropBlanks (dropBlanks s).reverse).reverse

/-- The text without the blanks at either end. -/
def trim (s : String) : String := String.ofList (trimChars s.toList)

end Reconcile.Text
