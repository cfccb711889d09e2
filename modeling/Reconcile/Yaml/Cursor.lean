/-!
# Places in a YAML text

A cursor is a place in a text: what is left from there on, and the line and column that the layout
of the text is judged by. Four characters end a line; other line ends were made line feeds before.
-/

namespace Reconcile.Yaml

/-! ## 1. Characters -/

/-- The characters that end a line. -/
def isBreak (c : Char) : Bool := c == '\n' || c == '\u0085' || c == '\u2028' || c == '\u2029'

def isBlankChar (c : Char) : Bool := c == ' ' || c == '\t'

/-- Whether a line or the text ends here. -/
def atLineEnd (c : Option Char) : Bool := c.all isBreak

/-- Whether a space, the end of a line or of the text is here. -/
def atSpace (c : Option Char) : Bool := c.all fun c => c == ' ' || isBreak c

/-- Whether a blank, the end of a line or of the text is here. -/
def atBlank (c : Option Char) : Bool := c.all fun c => isBlankChar c || isBreak c

/-- The character order mark, which takes no column. -/
def orderMark : Char := '\uFEFF'

/-- The characters that a text may hold. -/
def isAllowed (c : Char) : Bool :=
  let n := c.toNat
  n == 0x9 || n == 0xA || n == 0xD || (0x20 ≤ n && n ≤ 0x7E) || n == 0x85 || (0xA0 ≤ n && n ≤ 0xFFFD) ||
    0x10000 ≤ n

/-! ## 2. Cursors -/

/-- A place in a text. -/
structure Cursor where
  rest : List Char
  index : Nat := 0
  line : Nat := 0
  column : Nat := 0
  deriving Repr

namespace Cursor

def peek (c : Cursor) : Option Char := c.rest.head?

/-- The character some places ahead. -/
def ahead (c : Cursor) (n : Nat) : Option Char := c.rest[n]?

/-- Whether the given character is here. -/
def isAt (c : Cursor) (ch : Char) : Bool := c.peek == some ch

/-- The place behind the next character. -/
def next (c : Cursor) : Cursor :=
  match c.rest with
  | [] => c
  | ch :: rest =>
    if isBreak ch then ⟨rest, c.index + 1, c.line + 1, 0⟩
    else ⟨rest, c.index + 1, c.line, if ch == orderMark then c.column else c.column + 1⟩

/-- The place some characters ahead. -/
def skip : Nat → Cursor → Cursor
  | 0, c => c
  | n + 1, c => skip n c.next

/-- The characters from here on that pass a test, and the place behind them. -/
def takeWhile (p : Char → Bool) (c : Cursor) : List Char × Cursor :=
  let cs := c.rest.takeWhile p
  (cs, c.skip cs.length)

def skipWhile (p : Char → Bool) (c : Cursor) : Cursor := (c.takeWhile p).2

def skipSpaces (c : Cursor) : Cursor := c.skipWhile (· == ' ')

/-- The place at the end of a comment, when one begins here. -/
def skipComment (c : Cursor) : Cursor :=
  if c.isAt '#' then c.skipWhile fun ch => !isBreak ch else c

/-- The line end that is here, as a text holds it, and the place behind it. -/
def lineBreak? (c : Cursor) : Option (Char × Cursor) :=
  match c.peek with
  | some ch => if isBreak ch then some (if ch == '\u0085' then '\n' else ch, c.next) else none
  | none => none

/-- The place behind the line end that is here, if any. -/
def skipBreak (c : Cursor) : Cursor :=
  match c.lineBreak? with
  | some (_, next) => next
  | none => c

/-- Whether three equal marks and a blank are here, as they stand between documents. -/
def atMarks (c : Cursor) (mark : Char) : Bool :=
  c.rest.take 3 == [mark, mark, mark] && atBlank (c.ahead 3)

def atDocumentMark (c : Cursor) : Bool := c.atMarks '-' || c.atMarks '.'

end Cursor

end Reconcile.Yaml
