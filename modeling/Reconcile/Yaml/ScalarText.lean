import Reconcile.Decimal.Shapes
import Reconcile.Yaml.Cursor
import Reconcile.Yaml.Fault

/-!
# Texts of scalars

The text that a scalar stands for: plain, between quotes, or in a block. A line end inside a plain
or quoted scalar, or a folded block, is a space; of several the first goes away.
-/

namespace Reconcile.Yaml

def malformed {α : Type} (cause : Cause) : Except Fault α := .error (.malformed cause)

/-- What a line end and the empty lines behind it stand for in a folded text. -/
def foldedBreak (first : Char) (further : List Char) : List Char :=
  if first != '\n' then first :: further
  else if further.isEmpty then [' '] else further

/-! ## 1. Plain scalars -/

/-- Whether a colon with this character behind it ends a plain scalar. -/
def endsPlain (flow : Bool) (after : Option Char) : Bool :=
  atBlank after || (flow && after.any ",[]\x7b\x7d".toList.contains)

/-- The characters of a plain scalar up to a blank or an indicator. -/
def plainWord (flow : Bool) : List Char → List Char
  | [] => []
  | c :: rest =>
    if isBlankChar c || isBreak c || (c == ':' && endsPlain flow rest.head?) ||
        (flow && ",?[]\x7b\x7d".toList.contains c) then []
    else c :: plainWord flow rest

/-- Blanks inside a plain scalar: what they stand for, the place behind them and whether a line
    ended. Nothing when a mark between documents comes. -/
structure PlainGap where
  text : Option (List Char)
  cursor : Cursor
  lineEnded : Bool

/-- The empty lines inside a plain scalar; nothing when a mark between documents comes. -/
def plainBreaks : Nat → List Char → Cursor → Option (List Char) × Cursor
  | 0, acc, c => (some acc.reverse, c)
  | fuel + 1, acc, c =>
    if c.isAt ' ' then plainBreaks fuel acc c.next
    else match c.lineBreak? with
      | none => (some acc.reverse, c)
      | some (ch, next) =>
        if next.atDocumentMark then (none, next) else plainBreaks fuel (ch :: acc) next

/-- The blanks behind a word of a plain scalar. -/
def plainGap (c : Cursor) : PlainGap :=
  let (spaces, c) := c.takeWhile (· == ' ')
  match c.lineBreak? with
  | none => ⟨some spaces, c, false⟩
  | some (first, next) =>
    if next.atDocumentMark then ⟨none, next, true⟩
    else match plainBreaks next.rest.length [] next with
      | (none, after) => ⟨none, after, true⟩
      | (some further, after) => ⟨some (foldedBreak first further), after, true⟩

/-- Reads a plain scalar: its text, the place behind it and the blanks that follow, and whether the
    last of them ended a line. -/
def readPlain (flow : Bool) (indent : Int) :
    Nat → List Char → List Char → Bool → Cursor → List Char × Cursor × Bool
  | 0, acc, _, ended, c => (acc, c, ended)
  | fuel + 1, acc, gap, ended, c =>
    if c.isAt '#' then (acc, c, ended)
    else match plainWord flow c.rest with
      | [] => (acc, c, ended)
      | word =>
        let acc := acc ++ gap ++ word
        let g := plainGap (c.skip word.length)
        match g.text with
        | some (s :: gap) =>
          if g.cursor.isAt '#' || (!flow && (g.cursor.column : Int) < indent) then
            (acc, g.cursor, g.lineEnded)
          else readPlain flow indent fuel acc (s :: gap) g.lineEnded g.cursor
        | _ => (acc, g.cursor, g.lineEnded)

/-! ## 2. Quoted scalars -/

/-- The empty lines inside a quoted scalar. -/
def quotedBreaks : Nat → List Char → Cursor → Except Fault (List Char × Cursor)
  | 0, acc, c => .ok (acc.reverse, c)
  | fuel + 1, acc, c =>
    if c.atDocumentMark then malformed .documentInScalar
    else
      let c := c.skipWhile isBlankChar
      match c.lineBreak? with
      | some (ch, next) => quotedBreaks fuel (ch :: acc) next
      | none => .ok (acc.reverse, c)

/-- Blanks inside a quoted scalar. -/
def quotedGap (c : Cursor) : Except Fault (List Char × Cursor) := do
  let (blanks, c) := c.takeWhile isBlankChar
  match c.peek with
  | none => malformed .unexpectedEnd
  | some _ => match c.lineBreak? with
    | none => return (blanks, c)
    | some (first, next) =>
      let (further, after) ← quotedBreaks (next.rest.length + 1) [] next
      return (foldedBreak first further, after)

/-- The character that a letter behind a backslash stands for. -/
def escapedChar? : Char → Option Char
  | '0' => some '\x00'
  | 'a' => some '\x07'
  | 'b' => some '\x08'
  | 't' | '\t' => some '\t'
  | 'n' => some '\n'
  | 'v' => some '\x0b'
  | 'f' => some '\x0c'
  | 'r' => some '\r'
  | 'e' => some '\x1b'
  | ' ' => some ' '
  | '"' => some '"'
  | '\\' => some '\\'
  | '/' => some '/'
  | 'N' => some '\u0085'
  | '_' => some '\u00A0'
  | 'L' => some '\u2028'
  | 'P' => some '\u2029'
  | _ => none

/-- The number of hexadecimal digits behind a letter for a character code. -/
def codeLength? : Char → Option Nat
  | 'x' => some 2
  | 'u' => some 4
  | 'U' => some 8
  | _ => none

/-- The number that hexadecimal digits write. -/
def hexValue (cs : List Char) : Nat :=
  cs.foldl (fun n c =>
    16 * n + (if c ≤ '9' then c.toNat - 48 else if 'a' ≤ c then c.toNat - 87 else c.toNat - 55)) 0

/-- Reads what stands behind a backslash. -/
def readEscape (c : Cursor) : Except Fault (List Char × Cursor) :=
  match c.peek with
  | none => malformed .badEscape
  | some ch => match escapedChar? ch with
    | some e => .ok ([e], c.next)
    | none => match codeLength? ch with
      | some count =>
        let digits := c.next.rest.take count
        if digits.length = count && digits.all Decimal.isHexDigit then
          if hexValue digits > 0x7FFFFFFF then .error (.scalar .codeTooLarge)
          else if hexValue digits > 0x10FFFF then .error (.scalar .codeOutOfRange)
          else .ok ([Char.ofNat (hexValue digits)], c.next.skip count)
        else malformed .badEscape
      | none =>
        if isBreak ch then quotedBreaks (c.rest.length + 1) [] c.next
        else malformed .badEscape

/-- The characters of a quoted scalar up to a blank or to the quote that ends it. -/
def quotedWord (double : Bool) :
    Nat → List Char → Cursor → Except Fault (List Char × Cursor)
  | 0, acc, c => .ok (acc, c)
  | fuel + 1, acc, c => match c.peek with
    | none => .ok (acc, c)
    | some ch =>
      if isBlankChar ch || isBreak ch then .ok (acc, c)
      else if !double && ch == '\'' then
        if c.ahead 1 == some '\'' then quotedWord double fuel (acc ++ ['\'']) (c.skip 2)
        else .ok (acc, c)
      else if double && ch == '"' then .ok (acc, c)
      else if double && ch == '\\' then do
        let (cs, c) ← readEscape c.next
        quotedWord double fuel (acc ++ cs) c
      else quotedWord double fuel (acc ++ [ch]) c.next

/-- Reads a quoted scalar from behind its first quote. -/
def readQuoted (double : Bool) : Nat → List Char → Cursor → Except Fault (List Char × Cursor)
  | 0, _, _ => malformed .unexpectedEnd
  | fuel + 1, acc, c => do
    let (word, c) ← quotedWord double (c.rest.length + 1) [] c
    let acc := acc ++ word
    if c.isAt (if double then '"' else '\'') then return (acc, c.next)
    else
      let (gap, c) ← quotedGap c
      readQuoted double fuel (acc ++ gap) c

/-! ## 3. Block scalars -/

/-- What becomes of the line ends at the end of a block scalar. -/
inductive Chomp where
  | strip
  | clip
  | keep
  deriving DecidableEq, Repr

/-- The sign for what becomes of the line ends at the end. -/
def chompOf? : Option Char → Option Chomp
  | some '+' => some .keep
  | some '-' => some .strip
  | _ => none

/-- The digit for the indentation of a block scalar. -/
def indentOf? (c : Option Char) : Option Nat :=
  c.bind fun ch => if '0' ≤ ch && ch ≤ '9' then some (ch.toNat - 48) else none

/-- What stands behind the indicator of a block scalar, in either order. -/
def blockHeader (c : Cursor) : Except Fault (Chomp × Option Nat × Cursor) := do
  let (chomp, increment, c) := match chompOf? c.peek with
    | some h => match indentOf? c.next.peek with
      | some n => (h, some n, c.next.next)
      | none => (h, none, c.next)
    | none => match indentOf? c.peek with
      | some n => match chompOf? c.next.peek with
        | some h => (h, some n, c.next.next)
        | none => (Chomp.clip, some n, c.next)
      | none => (Chomp.clip, none, c)
  if increment == some 0 || !atSpace c.peek then malformed .badBlockScalar
  let c := c.skipSpaces.skipComment
  if atLineEnd c.peek then return (chomp, increment, c.skipBreak)
  else malformed .badBlockScalar

/-- The empty lines before the first line of a block, and the largest indentation among them. -/
def blockIndent : Nat → List Char → Nat → Cursor → List Char × Nat × Cursor
  | 0, acc, most, c => (acc.reverse, most, c)
  | fuel + 1, acc, most, c =>
    if c.isAt ' ' then blockIndent fuel acc (max most c.next.column) c.next
    else match c.lineBreak? with
      | some (ch, next) => blockIndent fuel (ch :: acc) most next
      | none => (acc.reverse, most, c)

/-- Skips spaces up to a column. -/
def skipToColumn (indent : Nat) : Nat → Cursor → Cursor
  | 0, c => c
  | fuel + 1, c =>
    if c.column < indent && c.isAt ' ' then skipToColumn indent fuel c.next else c

/-- The empty lines between the lines of a block. -/
def blockBreaks (indent : Nat) : Nat → List Char → Cursor → List Char × Cursor
  | 0, acc, c => (acc.reverse, c)
  | fuel + 1, acc, c =>
    let c := skipToColumn indent c.rest.length c
    match c.lineBreak? with
    | some (ch, next) => blockBreaks indent fuel (ch :: acc) next
    | none => (acc.reverse, c)

/-- The lines of a block: `breaks` are the empty lines before the next one. -/
def blockLines (folded : Bool) (chomp : Chomp) (indent : Nat) :
    Nat → List Char → List Char → List Char → Cursor → List Char × Cursor
  | 0, acc, _, _, c => (acc, c)
  | fuel + 1, acc, lineEnd, breaks, c =>
    if c.column = indent && c.peek.isSome then
      let startsBlank := c.peek.any isBlankChar
      let (line, c) := c.takeWhile fun ch => !isBreak ch
      let acc := acc ++ breaks ++ line
      let (lineEnd, c) := match c.lineBreak? with
        | some (ch, next) => ([ch], next)
        | none => ([], c)
      let (breaks, c) := blockBreaks indent (c.rest.length + 1) [] c
      if c.column = indent && c.peek.isSome then
        let joins := folded && lineEnd == ['\n'] && !startsBlank && !c.peek.any isBlankChar
        let glue := if joins then (if breaks.isEmpty then [' '] else []) else lineEnd
        blockLines folded chomp indent fuel (acc ++ glue) [] breaks c
      else (acc ++ (if chomp == .strip then [] else lineEnd) ++
        (if chomp == .keep then breaks else []), c)
    else (acc ++ (if chomp == .strip then [] else lineEnd) ++
      (if chomp == .keep then breaks else []), c)

/-- Reads a block scalar from behind its indicator; `parent` is the indentation around it. -/
def readBlock (folded : Bool) (parent : Int) (c : Cursor) :
    Except Fault (List Char × Cursor) := do
  let (chomp, increment, c) ← blockHeader c
  let least := (max (parent + 1) 1).toNat
  let (indent, breaks, c) := match increment with
    | none =>
      let (breaks, most, c) := blockIndent c.rest.length [] 0 c
      (max least most, breaks, c)
    | some n =>
      let indent := least + n - 1
      let (breaks, c) := blockBreaks indent (c.rest.length + 1) [] c
      (indent, breaks, c)
  return blockLines folded chomp indent (c.rest.length + 1) [] [] breaks c

end Reconcile.Yaml
