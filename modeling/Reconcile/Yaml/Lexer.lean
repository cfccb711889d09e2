import Reconcile.Yaml.ScalarText
import Reconcile.Yaml.Token

/-!
# From text to tokens

The tokens of a YAML text, one after the other. Indentation becomes tokens that begin and end
blocks. A key without an indicator is known only when its colon comes: until then the place of its
token is remembered, one for each level of brackets, and it must stand on one line and be short.
-/

namespace Reconcile.Yaml

/-- A token that may turn out to begin a key. -/
structure PossibleKey where
  token : Nat
  required : Bool
  index : Nat
  line : Nat
  column : Nat
  deriving Repr

/-- The state of reading tokens. -/
structure Lexer where
  cursor : Cursor
  tokens : Array Token := #[]
  flowLevel : Nat := 0
  indent : Int := -1
  indents : List Int := []
  keyAllowed : Bool := true
  keys : List (Nat × PossibleKey) := []

namespace Lexer

/-! ## 1. Keys -/

/-- The longest distance between the beginning of a key and its colon. -/
def maxKeyLength : Nat := 1024

/-- Forgets the keys that can no longer be one; a required one is a fault. -/
def dropStaleKeys (l : Lexer) : Except Fault Lexer :=
  let stale (k : PossibleKey) : Bool :=
    k.line != l.cursor.line || l.cursor.index - k.index > maxKeyLength
  if l.keys.any fun e => stale e.2 && e.2.required then malformed .keyWithoutValue
  else .ok { l with keys := l.keys.filter fun e => !stale e.2 }

/-- Forgets the possible key of this level; a required one is a fault. -/
def dropKey (l : Lexer) : Except Fault Lexer :=
  match l.keys.lookup l.flowLevel with
  | some k =>
    if k.required then malformed .keyWithoutValue
    else .ok { l with keys := l.keys.filter fun e => e.1 != l.flowLevel }
  | none => .ok l

/-- Remembers that the next token may begin a key. -/
def saveKey (l : Lexer) : Except Fault Lexer := do
  if l.keyAllowed then
    let l ← l.dropKey
    let c := l.cursor
    let required := l.flowLevel == 0 && l.indent == (c.column : Int)
    return { l with
      keys := (l.flowLevel, ⟨l.tokens.size, required, c.index, c.line, c.column⟩) :: l.keys }
  else return l

/-! ## 2. Tokens and indentation -/

def push (l : Lexer) (t : Token) : Lexer := { l with tokens := l.tokens.push t }

/-- Puts a token before the one with a number. -/
def insert (l : Lexer) (place : Nat) (t : Token) : Lexer :=
  if h : place ≤ l.tokens.size then { l with tokens := l.tokens.insertIdx place t h } else l.push t

/-- Adds a token and goes on behind its characters. -/
def take (l : Lexer) (t : Token) (length : Nat) : Lexer :=
  { l.push t with cursor := l.cursor.skip length }

/-- The blocks that end before a column, given the indentation and those around it. -/
def blocksToEnd (column : Int) : Int → List Int → Nat
  | indent, outer :: rest => if column < indent then blocksToEnd column outer rest + 1 else 0
  | _, [] => 0

/-- Ends the blocks that are indented more than a column. -/
def unwind (l : Lexer) (column : Int) : Lexer :=
  if l.flowLevel != 0 then l
  else
    let n := blocksToEnd column l.indent l.indents
    { l with
      tokens := l.tokens ++ Array.replicate n .blockEnd
      indent := (l.indent :: l.indents)[n]?.getD (-1)
      indents := l.indents.drop n }

/-- Begins a block when the column is indented more than what is around it. -/
def openBlock (l : Lexer) (column place : Nat) (t : Token) : Lexer :=
  if l.indent < (column : Int) then
    { l.insert place t with indent := column, indents := l.indent :: l.indents }
  else l

/-! ## 3. Blanks -/

/-- Goes to the next token: over spaces, comments and line ends. -/
def skipBlanks : Nat → Lexer → Lexer
  | 0, l => l
  | fuel + 1, l =>
    let c := l.cursor.skipSpaces.skipComment
    match c.lineBreak? with
    | some (_, next) =>
      skipBlanks fuel { l with cursor := next, keyAllowed := l.keyAllowed || l.flowLevel == 0 }
    | none => { l with cursor := c }

/-- The mark for the order of bytes at the very front is no character. -/
def skipOrderMark (l : Lexer) : Lexer :=
  if l.cursor.index == 0 && l.cursor.isAt orderMark then { l with cursor := l.cursor.next } else l

/-! ## 4. Names, tags and directives -/

def isNameChar (c : Char) : Bool := c.isAlphanum || c == '-' || c == '_'

/-- Reads the name of an anchor or an alias from behind its indicator. -/
def readName (c : Cursor) : Except Fault (String × Cursor) :=
  let (name, c) := c.takeWhile isNameChar
  if name.isEmpty then malformed .badName
  else if atBlank c.peek || c.peek.any "?:,]\x7d%@\x60".toList.contains then
    .ok (String.ofList name, c)
  else malformed .badName

/-- Reads the handle of a tag: letters between two exclamation marks, or one before a space. -/
def readHandle (c : Cursor) : Except Fault (String × Cursor) :=
  if !c.isAt '!' then malformed .badTag
  else
    let after := c.next
    if after.isAt ' ' then .ok ("!", after)
    else
      let (name, c) := after.takeWhile isNameChar
      if c.isAt '!' then .ok (String.ofList ('!' :: name ++ ['!']), c.next) else malformed .badTag

def isUriChar (c : Char) : Bool := c.isAlphanum || "-;/?:@&=+$,_.!~*'()[]".toList.contains c

/-- The bytes that percent signs with two digits write. -/
def escapedBytes : List Char → Option (List UInt8 × List Char)
  | '%' :: a :: b :: rest =>
    if Decimal.isHexDigit a && Decimal.isHexDigit b then
      (escapedBytes rest).map fun (bs, left) => (UInt8.ofNat (hexValue [a, b]) :: bs, left)
    else none
  | '%' :: _ => none
  | s => some ([], s)

/-- Reads the characters of a tag. -/
def readUri : Nat → List Char → Cursor → Except Fault (List Char × Cursor)
  | 0, acc, c => .ok (acc, c)
  | fuel + 1, acc, c =>
    let (cs, c) := c.takeWhile isUriChar
    let acc := acc ++ cs
    if c.isAt '%' then
      match escapedBytes c.rest with
      | none => malformed .badTag
      | some (bytes, left) => match String.fromUTF8? ⟨bytes.toArray⟩ with
        | none => malformed .badTag
        | some s => readUri fuel (acc ++ s.toList) (c.skip (c.rest.length - left.length))
    else .ok (acc, c)

/-- Reads characters of a tag; there must be some. -/
def readTagText (c : Cursor) : Except Fault (String × Cursor) := do
  let (cs, c) ← readUri (c.rest.length + 1) [] c
  if cs.isEmpty then malformed .badTag else return (String.ofList cs, c)

/-- Whether an exclamation mark comes before the next space. -/
def hasHandle : List Char → Bool
  | [] => false
  | c :: rest => if c == ' ' || isBreak c then false else c == '!' || hasHandle rest

/-- Reads a tag. -/
def readTag (c : Cursor) : Except Fault (Token × Cursor) := do
  let (token, c) ←
    if c.ahead 1 == some '<' then do
      let (suffix, c) ← readTagText (c.skip 2)
      if c.isAt '>' then pure (Token.tag none suffix, c.next) else malformed .badTag
    else if atBlank (c.ahead 1) then pure (Token.tag none "!", c.next)
    else do
      let (handle, c) ← if hasHandle (c.rest.drop 1) then readHandle c else pure ("!", c.next)
      let (suffix, c) ← readTagText c
      pure (Token.tag (some handle) suffix, c)
  if atSpace c.peek then return (token, c) else malformed .badTag

/-- Reads a number of the version of a document. -/
def readVersionNumber (c : Cursor) : Except Fault (Nat × Cursor) :=
  let (ds, c) := c.takeWhile Text.isPlainDigit
  if ds.isEmpty then malformed .badDirective
  else .ok (Decimal.ofDigits (ds.map fun d => d.toNat - 48), c)

/-- Reads the version of a document. -/
def readVersion (c : Cursor) : Except Fault (Directive × Cursor) := do
  let (major, c) ← readVersionNumber c.skipSpaces
  if !c.isAt '.' then malformed .badDirective
  let (minor, c) ← readVersionNumber c.next
  if atSpace c.peek then return (.version major minor, c) else malformed .badDirective

/-- Reads what a handle of tags stands for. -/
def readHandleDirective (c : Cursor) : Except Fault (Directive × Cursor) := do
  let (handle, c) ← readHandle c.skipSpaces
  if !c.isAt ' ' then malformed .badDirective
  let (expansion, c) ← readTagText c.skipSpaces
  if atSpace c.peek then return (.handle handle expansion, c) else malformed .badDirective

/-- Reads a directive. -/
def readDirective (c : Cursor) : Except Fault (Directive × Cursor) := do
  let (name, c) := c.next.takeWhile isNameChar
  if name.isEmpty || !atSpace c.peek then malformed .badDirective
  let (d, c) ←
    if name == "YAML".toList then readVersion c
    else if name == "TAG".toList then readHandleDirective c
    else pure (.other, c.skipWhile fun ch => !isBreak ch)
  let c := c.skipSpaces.skipComment
  if atLineEnd c.peek then return (d, c.skipBreak) else malformed .badDirective

/-! ## 5. Single tokens -/

/-- What stands between documents ends all blocks. -/
def betweenDocuments (l : Lexer) : Except Fault Lexer := do
  return { ← (l.unwind (-1)).dropKey with keyAllowed := false }

/-- The end of the text. -/
def readEnd (l : Lexer) : Except Fault Lexer := do
  return { (← l.betweenDocuments).push .textEnd with keys := [] }

def readDirectiveToken (l : Lexer) : Except Fault Lexer := do
  let l ← l.betweenDocuments
  let (d, c) ← readDirective l.cursor
  return { l.push (.directive d) with cursor := c }

def readDocumentMark (l : Lexer) (t : Token) : Except Fault Lexer := do
  return (← l.betweenDocuments).take t 3

/-- An opening bracket. -/
def readFlowStart (l : Lexer) (t : Token) : Except Fault Lexer := do
  let l ← l.saveKey
  return { l.take t 1 with flowLevel := l.flowLevel + 1, keyAllowed := true }

/-- A closing bracket; without an opening one it is no token. -/
def readFlowEnd (l : Lexer) (t : Token) : Except Fault Lexer := do
  let l ← l.dropKey
  return { l.take t 1 with flowLevel := l.flowLevel - 1, keyAllowed := false }

def readFlowEntry (l : Lexer) : Except Fault Lexer := do
  return { (← l.dropKey).take .flowEntry 1 with keyAllowed := true }

/-- The indicator of an entry of a sequence. -/
def readBlockEntry (l : Lexer) : Except Fault Lexer := do
  if l.flowLevel == 0 && !l.keyAllowed then malformed .misplacedIndicator
  let l := if l.flowLevel == 0 then
      l.openBlock l.cursor.column l.tokens.size .blockSequenceStart
    else l
  return { (← l.dropKey).take .blockEntry 1 with keyAllowed := true }

/-- The indicator of a key. -/
def readKey (l : Lexer) : Except Fault Lexer := do
  if l.flowLevel == 0 && !l.keyAllowed then malformed .misplacedIndicator
  let l := if l.flowLevel == 0 then
      l.openBlock l.cursor.column l.tokens.size .blockMappingStart
    else l
  return { (← l.dropKey).take .key 1 with keyAllowed := l.flowLevel == 0 }

/-- The indicator of a value. A key that was possible becomes one. -/
def readValue (l : Lexer) : Except Fault Lexer := do
  match l.keys.lookup l.flowLevel with
  | some k =>
    let l := { l with keys := l.keys.filter fun e => e.1 != l.flowLevel }
    let l := l.insert k.token .key
    let l := if l.flowLevel == 0 then l.openBlock k.column k.token .blockMappingStart else l
    return { l.take .value 1 with keyAllowed := false }
  | none =>
    if l.flowLevel == 0 && !l.keyAllowed then malformed .misplacedIndicator
    let l := if l.flowLevel == 0 then
        l.openBlock l.cursor.column l.tokens.size .blockMappingStart
      else l
    return { (← l.dropKey).take .value 1 with keyAllowed := l.flowLevel == 0 }

/-- A token that may begin a key, read from the place of the lexer. -/
def readKeyToken (l : Lexer) (read : Cursor → Except Fault (Token × Cursor)) :
    Except Fault Lexer := do
  let l ← l.saveKey
  let (t, c) ← read l.cursor
  return { l.push t with cursor := c, keyAllowed := false }

def readNamed (make : String → Token) (c : Cursor) : Except Fault (Token × Cursor) := do
  let (name, c) ← readName c.next
  return (make name, c)

def readQuotedToken (double : Bool) (c : Cursor) : Except Fault (Token × Cursor) := do
  let (text, c) ← readQuoted double (c.rest.length + 1) [] c.next
  return (.scalar (String.ofList text) false, c)

def readPlainToken (l : Lexer) : Except Fault Lexer := do
  let l ← l.saveKey
  let (text, c, ended) :=
    readPlain (l.flowLevel != 0) (l.indent + 1) l.cursor.rest.length [] [] false l.cursor
  return { l.push (.scalar (String.ofList text) true) with cursor := c, keyAllowed := ended }

def readBlockToken (l : Lexer) (folded : Bool) : Except Fault Lexer := do
  let l ← l.dropKey
  let (text, c) ← readBlock folded l.indent l.cursor.next
  return { l.push (.scalar (String.ofList text) false) with cursor := c, keyAllowed := true }

/-! ## 6. The text -/

/-- Whether a plain scalar can begin here. -/
def beginsPlain (flow : Bool) (c : Cursor) : Bool :=
  match c.peek with
  | none => false
  | some ch =>
    (!isBlankChar ch && !isBreak ch &&
        !"-?:,[]\x7b\x7d#&*!|>'\"%@\x60".toList.contains ch) ||
      (!atBlank (c.ahead 1) && (ch == '-' || (!flow && (ch == '?' || ch == ':'))))

/-- Reads the next token, given the character it begins with. -/
def readToken (l : Lexer) (ch : Char) : Except Fault Lexer :=
  let c := l.cursor
  let flow := l.flowLevel != 0
  let alone := atBlank (c.ahead 1)
  if ch == '%' && c.column == 0 then l.readDirectiveToken
  else if c.column == 0 && c.atMarks '-' then l.readDocumentMark .documentStart
  else if c.column == 0 && c.atMarks '.' then l.readDocumentMark .documentEnd
  else match ch with
    | '[' => l.readFlowStart .flowSequenceStart
    | '{' => l.readFlowStart .flowMappingStart
    | ']' => l.readFlowEnd .flowSequenceEnd
    | '}' => l.readFlowEnd .flowMappingEnd
    | ',' => l.readFlowEntry
    | '*' => l.readKeyToken (readNamed .alias)
    | '&' => l.readKeyToken (readNamed .anchor)
    | '!' => l.readKeyToken readTag
    | '\'' => l.readKeyToken (readQuotedToken false)
    | '"' => l.readKeyToken (readQuotedToken true)
    | _ =>
      if ch == '-' && alone then l.readBlockEntry
      else if ch == '?' && (flow || alone) then l.readKey
      else if ch == ':' && (flow || alone) then l.readValue
      else if ch == '|' && !flow then l.readBlockToken false
      else if ch == '>' && !flow then l.readBlockToken true
      else if beginsPlain flow c then l.readPlainToken
      else malformed .unexpectedCharacter

/-- Reads tokens up to the end of the text. Each takes a character, so a fuel of one more than there
    are characters suffices. -/
def run : Nat → Lexer → Except Fault (List Token)
  | 0, _ => malformed .unexpectedEnd
  | fuel + 1, l => do
    let l ← (skipBlanks (l.cursor.rest.length + 1) l.skipOrderMark).dropStaleKeys
    let l := l.unwind l.cursor.column
    match l.cursor.peek with
    | none => return (← l.readEnd).tokens.toList
    | some ch => run fuel (← l.readToken ch)

end Lexer

/-- The tokens of a text. -/
def tokens (text : List Char) : Except Fault (List Token) :=
  if text.all isAllowed then Lexer.run (text.length + 1) { cursor := { rest := text } }
  else malformed .unprintableCharacter

end Reconcile.Yaml
