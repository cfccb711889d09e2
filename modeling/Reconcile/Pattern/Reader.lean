import Reconcile.Decimal.Shapes
import Reconcile.Pattern.Fault
import Reconcile.Pattern.Node
import Reconcile.Pattern.Token
import Reconcile.Text.CharacterName
import Reconcile.Text.Identifier

/-!
# Reading patterns

A pattern is read token by token. The reader is a machine with a stack: a frame for every open
bracket, which keeps what was read of the part around it. Options are resolved on the way, so the
tree that comes out needs none.
-/

namespace Reconcile.Pattern

open Reconcile.Text

/-! ## 1. The rest of the text -/

/-- The position of the next token, or the size of the text at its end. -/
def tell (size : Nat) : List Token → Nat
  | [] => size
  | t :: _ => t.pos

def fault {α : Type} (cause : Cause) (pos : Nat) : Except Fault α := .error (.malformed cause pos)

/-- What is left after a token was taken. A backslash at the end of the text is noticed as soon as
    it comes next. -/
def settle (rest : List Token) : Except Fault (List Token) :=
  match rest with
  | ⟨pos, .dangling⟩ :: _ => fault .danglingEscape pos
  | _ => .ok rest

/-- What is left after the given character, when it comes next. -/
def accept? (c : Char) : List Token → Except Fault (Option (List Token))
  | ⟨_, .plain d⟩ :: rest => if d == c then some <$> settle rest else .ok none
  | _ => .ok none

/-- Takes up to the given number of characters that pass a test. -/
def takeChars (test : Char → Bool) : Nat → List Token → Except Fault (List Char × List Token)
  | n + 1, ⟨p, .plain c⟩ :: rest =>
    if test c then do
      let (cs, left) ← takeChars test n (← settle rest)
      return (c :: cs, left)
    else .ok ([], ⟨p, .plain c⟩ :: rest)
  | _, left => .ok ([], left)

/-- Takes a name up to a terminator, which is taken as well. -/
def takeName (size : Nat) (terminator : Char) (what : String) (acc : List Char) :
    List Token → Except Fault (List Char × List Token)
  | [] =>
    if acc.isEmpty then fault (.missingName what) size
    else fault (.unterminatedName terminator) (size - acc.length)
  | t :: rest => do
    let left ← settle rest
    if t.sign == .plain terminator then
      if acc.isEmpty then fault (.missingName what) (tell size left - 1) else return (acc, left)
    else takeName size terminator what (acc ++ t.chars) rest

/-! ## 2. Escapes -/

/-- What an escape stands for. -/
inductive Piece where
  | code (n : Nat)
  | named (k : Class) (negated : Bool)
  | anchor (kind : Char)
  | reference (index : Nat)
  deriving DecidableEq, Repr

def isOctal (c : Char) : Bool := '0' ≤ c && c ≤ '7'

def isAsciiLetter (c : Char) : Bool := ('a' ≤ c && c ≤ 'z') || ('A' ≤ c && c ≤ 'Z')

/-- The number written by digits in a base. -/
def codeOf (base : Nat) (cs : List Char) : Nat :=
  cs.foldl (fun n c => base * n +
    (if isPlainDigit c then c.toNat - 48 else if 'a' ≤ c then c.toNat - 87 else c.toNat - 55)) 0

/-- The letters for classes of characters. -/
def classLetter? : Char → Option Piece
  | 'd' => some (.named .digit false)
  | 'D' => some (.named .digit true)
  | 's' => some (.named .space false)
  | 'S' => some (.named .space true)
  | 'w' => some (.named .word false)
  | 'W' => some (.named .word true)
  | _ => none

/-- The letters for control characters, and the backslash itself. -/
def controlLetter? : Char → Option Piece
  | 'a' => some (.code 7)
  | 'b' => some (.code 8)
  | 'f' => some (.code 12)
  | 'n' => some (.code 10)
  | 'r' => some (.code 13)
  | 't' => some (.code 9)
  | 'v' => some (.code 11)
  | '\\' => some (.code 92)
  | _ => none

/-- The number of hexadecimal digits behind a letter for a character code. -/
def hexCount? : Char → Option Nat
  | 'x' => some 2
  | 'u' => some 4
  | 'U' => some 8
  | _ => none

def shownEscape (c : Char) (more : List Char) : String := String.ofList ('\\' :: c :: more)

/-- Reads a character code of a fixed number of hexadecimal digits. -/
def readHex (count start : Nat) (c : Char) (left : List Token) :
    Except Fault (Piece × List Token) := do
  let (ds, rest) ← takeChars Decimal.isHexDigit count left
  if ds.length ≠ count then fault (.incompleteEscape (shownEscape c ds)) start
  else if codeOf 16 ds > 0x10FFFF then fault (.badEscape (shownEscape c ds)) start
  else return (.code (codeOf 16 ds), rest)

/-- Reads the name of a character. -/
def readNamed (size : Nat) (left : List Token) : Except Fault (Piece × List Token) := do
  match ← accept? '{' left with
  | none => fault .missingBrace (tell size left)
  | some rest =>
    let (name, after) ← takeName size '}' "character name" [] rest
    match characterNamed? name with
    | some n => return (.code n, after)
    | none =>
      fault (.undefinedCharacter (String.ofList name)) (tell size after - (name.length + 4))

/-- An escape that means the same inside and outside of a set of characters, or none at all. -/
def readPlainEscape (start : Nat) (c : Char) (left : List Token) :
    Except Fault (Piece × List Token) :=
  if isAsciiLetter c || isPlainDigit c then fault (.badEscape (shownEscape c [])) start
  else .ok (.code c.toNat, left)

/-- Reads an escape inside a set of characters; `left` is what stands behind it. -/
def readSetEscape (size start : Nat) (c : Char) (left : List Token) :
    Except Fault (Piece × List Token) := do
  match (controlLetter? c).or (classLetter? c) with
  | some piece => return (piece, left)
  | none =>
    match hexCount? c with
    | some count => readHex count start c left
    | none =>
      if c == 'N' then readNamed size left
      else if isOctal c then
        let (ds, rest) ← takeChars isOctal 2 left
        if codeOf 8 (c :: ds) > 0o377 then fault (.octalTooLarge (shownEscape c ds)) start
        else return (.code (codeOf 8 (c :: ds)), rest)
      else readPlainEscape start c left

/-- What the reader knows about groups: the names, the width of each group that is closed, and the
    number of groups where the outermost look-behind began. -/
structure Groups where
  names : List (String × Nat) := []
  widths : List (Option (Nat × Nat)) := []
  lookBehindFrom : Option Nat := none
  deriving Repr

/-- Whether a group is there and closed. -/
def Groups.isClosed (g : Groups) (index : Nat) : Bool :=
  index == 0 || (match g.widths[index - 1]? with
    | some (some _) => true
    | _ => false)

/-- Inside a look-behind, a group that is looked up must be closed and be older than it. -/
def Groups.checkLookBehind (g : Groups) (index pos : Nat) : Except Fault Unit :=
  match g.lookBehindFrom with
  | none => .ok ()
  | some limit =>
    if !(index ≤ g.widths.length && g.isClosed index) then fault .openGroup pos
    else if index > limit then fault .groupInSameLookBehind pos
    else .ok ()

/-- Checks that a group that is looked up exists and is closed. -/
def Groups.lookUp (g : Groups) (size start index : Nat) (digits : List Char) (left : List Token) :
    Except Fault (Piece × List Token) := do
  if index ≤ g.widths.length then
    if !g.isClosed index then fault .openGroup start
    else
      g.checkLookBehind index (tell size left)
      return (.reference index, left)
  else fault (.invalidGroup index) (tell size left - digits.length)

/-- Reads digits behind a backslash: a character code of three octal digits, or a group. -/
def readDigits (g : Groups) (size start : Nat) (c : Char) (left : List Token) :
    Except Fault (Piece × List Token) := do
  let (second, rest) ← takeChars isPlainDigit 1 left
  match second with
  | [] => g.lookUp size start (codeOf 10 [c]) [c] left
  | d :: _ =>
    let (third, more) ←
      if isOctal c && isOctal d then takeChars isOctal 1 rest else pure ([], rest)
    match third with
    | [] => g.lookUp size start (codeOf 10 [c, d]) [c, d] rest
    | e :: _ =>
      if codeOf 8 [c, d, e] > 0o377 then fault (.octalTooLarge (shownEscape c [d, e])) start
      else return (.code (codeOf 8 [c, d, e]), more)

/-- Reads an escape outside of sets; `left` is what stands behind it. -/
def readEscape (g : Groups) (size start : Nat) (c : Char) (left : List Token) :
    Except Fault (Piece × List Token) := do
  if "AbBZ".toList.contains c then return (.anchor c, left)
  match (classLetter? c).or (controlLetter? c) with
  | some piece => return (piece, left)
  | none =>
    match hexCount? c with
    | some count => readHex count start c left
    | none =>
      if c == 'N' then readNamed size left
      else if c == '0' then
        let (ds, rest) ← takeChars isOctal 2 left
        return (.code (codeOf 8 ds), rest)
      else if isPlainDigit c then readDigits g size start c left
      else readPlainEscape start c left

/-! ## 3. Sets of characters -/

def Piece.item : Piece → Item
  | .code n => .code n
  | .named k negated => .named k negated
  | .anchor c => .code c.toNat
  | .reference i => .code i

/-- Reads one member of a set from a token that was taken. -/
def readMember (size : Nat) (t : Token) (left : List Token) : Except Fault (Piece × List Token) :=
  match t.sign with
  | .plain c => .ok (.code c.toNat, left)
  | .escaped c => readSetEscape size t.pos c left
  | .dangling => fault .danglingEscape t.pos

/-- Reads the members of a set up to its closing bracket. `start` is the position of the opening
    one, and the fuel bounds the number of members. -/
def readSet (size start : Nat) : Nat → List Item → List Token →
    Except Fault (List Item × List Token)
  | 0, _, _ => fault .unterminatedSet start
  | _ + 1, _, [] => fault .unterminatedSet start
  | fuel + 1, acc, t :: rest => do
    let left ← settle rest
    if t.sign == .plain ']' && !acc.isEmpty then return (acc.reverse, left)
    else
      let (low, left) ← readMember size t left
      match ← accept? '-' left with
      | none => readSet size start fuel (low.item :: acc) left
      | some [] => fault .unterminatedSet start
      | some (t' :: rest') =>
        let left ← settle rest'
        if t'.sign == .plain ']' then return ((.code 45 :: low.item :: acc).reverse, left)
        else
          let (high, left) ← readMember size t' left
          let bad : Cause := .badRange (String.ofList t.chars) (String.ofList t'.chars)
          let pos := tell size left - (t.length + 1 + t'.length)
          match low, high with
          | .code l, .code h =>
            if h < l then fault bad pos else readSet size start fuel (.range l h :: acc) left
          | _, _ => fault bad pos

/-! ## 4. Options -/

/-- The options that change how a pattern is read. -/
structure Options where
  ignoreCase : Bool := false
  multiline : Bool := false
  dotAll : Bool := false
  verbose : Bool := false
  ascii : Bool := false
  template : Bool := false
  deriving DecidableEq, Repr

/-- The letters of the options. -/
def flagLetters : List Char := "iLmsxatu".toList

/-- The options with those of the letters set. -/
def Options.with (o : Options) (letters : List Char) : Options :=
  { ignoreCase := o.ignoreCase || letters.contains 'i'
    multiline := o.multiline || letters.contains 'm'
    dotAll := o.dotAll || letters.contains 's'
    verbose := o.verbose || letters.contains 'x'
    ascii := letters.contains 'a' || (o.ascii && !letters.contains 'u')
    template := o.template || letters.contains 't' }

/-- The options with those of the letters taken away. -/
def Options.without (o : Options) (letters : List Char) : Options :=
  { ignoreCase := o.ignoreCase && !letters.contains 'i'
    multiline := o.multiline && !letters.contains 'm'
    dotAll := o.dotAll && !letters.contains 's'
    verbose := o.verbose && !letters.contains 'x'
    ascii := o.ascii
    template := o.template && !letters.contains 't' }

def isTypeFlag (c : Char) : Bool := c == 'a' || c == 'u' || c == 'L'

/-- The fault of a token that should have been a letter of an option: of another letter it is
    unknown, anything else was expected to be `otherwise`. -/
def notAFlag {α : Type} (size : Nat) (t : Token) (otherwise : Cause) (left : List Token) :
    Except Fault α :=
  let cause := match t.sign with
    | .plain c => if isLetter c then Cause.unknownFlag else otherwise
    | _ => otherwise
  fault cause (tell size left - t.length)

/-- Reads the letters of options to set, from a letter that was taken on, up to the character that
    ends them. -/
def readFlagsOn (size : Nat) (letter : Char) (acc : List Char) (rest : List Token) :
    Except Fault (List Char × Char × List Token) :=
  if letter == 'L' then fault .localeFlag (tell size rest)
  else if isTypeFlag letter && acc.any (fun c => isTypeFlag c && c != letter) then
    fault .incompatibleFlags (tell size rest)
  else match rest with
    | [] => fault .afterFlags size
    | t :: more => do
      let left ← settle more
      match t.sign with
      | .plain c =>
        if c == ')' || c == '-' || c == ':' then return (letter :: acc, c, left)
        else if flagLetters.contains c then readFlagsOn size c (letter :: acc) more
        else notAFlag size t .afterFlags left
      | _ => notAFlag size t .afterFlags left

/-- Reads the letters of options to take away, from a letter that was taken on, up to the colon. -/
def readFlagsOff (size : Nat) (letter : Char) (acc : List Char) (rest : List Token) :
    Except Fault (List Char × List Token) :=
  if isTypeFlag letter then fault .typeFlagOff (tell size rest)
  else match rest with
    | [] => fault .missingColon size
    | t :: more => do
      let left ← settle more
      match t.sign with
      | .plain c =>
        if c == ':' then return (letter :: acc, left)
        else if flagLetters.contains c then readFlagsOff size c (letter :: acc) more
        else notAFlag size t .missingColon left
      | _ => notAFlag size t .missingColon left

/-- Options behind an opening bracket and a question mark: for the whole pattern, or set and taken
    away for the part in the brackets. -/
inductive FlagGroup where
  | global (on : List Char) (left : List Token)
  | scoped (on off : List Char) (left : List Token)

/-- Reads the letters to take away; `on` are those set before. -/
def readScoped (size : Nat) (on : List Char) : List Token → Except Fault FlagGroup
  | [] => fault .missingFlag size
  | t :: more => do
    let left ← settle more
    match t.sign with
    | .plain c =>
      if flagLetters.contains c then
        let (off, left) ← readFlagsOff size c [] left
        if off.contains 't' then fault .globalFlagOff (tell size left - 1)
        else if off.any on.contains then fault .flagOnAndOff (tell size left - 1)
        else return .scoped on off left
      else notAFlag size t .missingFlag left
    | _ => notAFlag size t .missingFlag left

/-- Reads options from the letter or the hyphen that was taken. -/
def readFlags (size : Nat) (first : Char) (left : List Token) : Except Fault FlagGroup := do
  if first == '-' then readScoped size [] left
  else
    let (on, stop, left) ← readFlagsOn size first [] left
    if stop == ')' then return .global on left
    else if on.contains 't' then fault .globalFlagOn (tell size left - 1)
    else if stop == '-' then readScoped size on left
    else return .scoped on [] left

/-! ## 5. The machine -/

/-- A part of a branch, with what a repetition mark behind it needs to know. -/
inductive Part where
  | anchor (n : Node)
  | loop (n : Node)
  | other (n : Node)

def Part.node : Part → Node
  | .anchor n | .loop n | .other n => n

/-- What an opening bracket began. -/
inductive Opening where
  | capture (index : Nat)
  | plain
  | atomic
  | ahead (negated : Bool)
  | behind (negated outermost : Bool)
  | present (index : Nat)
  | absent (index : Nat) (present : Node)

/-- What was read around an open bracket. -/
structure Frame where
  opening : Opening
  start : Nat
  parts : List Part
  branches : List Node
  options : Options

/-- The state of the reader. Parts and branches stand latest first. -/
structure State where
  left : List Token
  parts : List Part := []
  branches : List Node := []
  options : Options := {}
  frames : List Frame := []
  groups : Groups := {}
  /-- groups asked for by a condition, with the place of the question -/
  asked : List (Nat × Nat) := []
  asciiSet : Bool := false
  unicodeSet : Bool := false
  /-- the first fault that shows only when the whole pattern is known -/
  late : Option Fault := none
  /-- whether a look-behind looks further back than a matcher can -/
  farLookBehind : Bool := false

namespace State

def add (s : State) (p : Part) (left : List Token) : State :=
  { s with parts := p :: s.parts, left := left }

def addNode (s : State) (n : Node) (left : List Token) : State := s.add (.other n) left

/-- The branch read so far as one node. -/
def branch (s : State) : Node := Node.sequence (s.parts.map Part.node).reverse

/-- All branches read so far as one node. -/
def whole (s : State) : Node := Node.alternatives (s.branch :: s.branches).reverse

def set (s : State) (items : List Item) (negated : Bool) : Node :=
  .one { items, negated, ignoreCase := s.options.ignoreCase, ascii := s.options.ascii }

def noteLate (s : State) (f : Fault) : State :=
  { s with late := s.late.or (some f) }

/-- Begins what stands in brackets. -/
def open' (s : State) (opening : Opening) (start : Nat) (options : Options) (left : List Token) :
    State :=
  { s with
    left, parts := [], branches := [], options
    frames := ⟨opening, start, s.parts, s.branches, s.options⟩ :: s.frames }

/-- Goes back to what stood around the brackets, with the node they became. -/
def close (s : State) (f : Frame) (frames : List Frame) (n : Node) (left : List Token) : State :=
  { s with
    left, parts := .other n :: f.parts, branches := f.branches, options := f.options, frames }

end State

/-- The widths of the closed groups. -/
def Groups.known (g : Groups) : List (Nat × Nat) := g.widths.map (·.getD (0, 0))

/-- Opens a group that keeps its text. -/
def openCapture (size : Nat) (s : State) (name : Option String) (start : Nat) (left : List Token) :
    Except Fault State := do
  let index := s.groups.widths.length + 1
  let names ← match name with
    | none => pure s.groups.names
    | some n => match s.groups.names.lookup n with
      | some old => fault (.redefinedName n index old) (tell size left - (n.length + 1))
      | none => pure ((n, index) :: s.groups.names)
  let groups := { s.groups with names, widths := s.groups.widths ++ [none] }
  return { s with groups }.open' (.capture index) start s.options left

/-- Reads a group with a name, or a reference to one by name. -/
def readNameExtension (size : Nat) (s : State) (start : Nat) (left : List Token) :
    Except Fault State := do
  match ← accept? '<' left with
  | some rest =>
    let (name, left) ← takeName size '>' "group name" [] rest
    if !isName name then
      fault (.badNameCharacter (String.ofList name)) (tell size left - (name.length + 1))
    else openCapture size s (some (String.ofList name)) start left
  | none => match ← accept? '=' left with
    | some rest =>
      let (name, left) ← takeName size ')' "group name" [] rest
      let text := String.ofList name
      let pos := tell size left - (name.length + 1)
      if !isName name then fault (.badNameCharacter text) pos
      else match s.groups.names.lookup text with
        | none => fault (.unknownName text) pos
        | some i =>
          if !s.groups.isClosed i then fault .openGroup pos
          else
            s.groups.checkLookBehind i (tell size left)
            return s.addNode (.backref i s.options.ignoreCase s.options.ascii) left
    | none => match left with
      | [] => fault .unexpectedEnd size
      | t :: rest =>
        let left ← settle rest
        fault (.unknownExtension ("P" ++ String.ofList t.chars)) (tell size left - (t.length + 2))

/-- Skips a comment up to its closing bracket. -/
def skipComment (start : Nat) : List Token → Except Fault (List Token)
  | [] => fault .unterminatedComment start
  | t :: rest => do
    let left ← settle rest
    if t.sign == .plain ')' then return left else skipComment start rest

/-- Reads what a condition asks for: a group by name or by number. -/
def readCondition (size : Nat) (s : State) (start : Nat) (left : List Token) :
    Except Fault State := do
  let (name, left) ← takeName size ')' "group name" [] left
  let text := String.ofList name
  let pos := tell size left - (name.length + 1)
  let (index, asked) ←
    if isName name then
      match s.groups.names.lookup text with
      | none => fault (.unknownName text) pos
      | some i => pure (i, s.asked)
    else match Decimal.readLooseInteger? text with
      | none => fault (.badNameCharacter text) pos
      | some n =>
        if n < 0 then fault (.badNameCharacter text) pos
        else if n = 0 then fault .badGroupNumber pos
        else if n ≥ 2147483647 then fault (.invalidGroup n.toNat) pos
        else
          let i := n.toNat
          pure (i, if s.asked.any (·.1 == i) then s.asked else s.asked ++ [(i, pos)])
  s.groups.checkLookBehind index (tell size left)
  return { s with asked }.open' (.present index) start s.options left

/-- Begins a look-ahead or a look-behind. -/
def openLook (s : State) (behind negated : Bool) (start : Nat) (left : List Token) : State :=
  if behind then
    let outermost := s.groups.lookBehindFrom.isNone
    let groups := if outermost then
        { s.groups with lookBehindFrom := some s.groups.widths.length }
      else s.groups
    { s with groups }.open' (.behind negated outermost) start s.options left
  else s.open' (.ahead negated) start s.options left

/-- Reads what stands behind an opening bracket and a question mark. -/
def readExtension (size : Nat) (s : State) (start : Nat) :
    List Token → Except Fault State
  | [] => fault .unexpectedEnd size
  | t :: rest => do
    let left ← settle rest
    let unknown : Except Fault State :=
      fault (.unknownExtension (String.ofList t.chars)) (tell size left - (t.length + 1))
    match t.sign with
    | .plain c =>
      match c with
      | 'P' => readNameExtension size s start left
      | ':' => return s.open' .plain start s.options left
      | '#' => return { s with left := ← skipComment start left }
      | '=' => return openLook s false false start left
      | '!' => return openLook s false true start left
      | '>' => return s.open' .atomic start s.options left
      | '(' => readCondition size s start left
      | '<' => match left with
        | [] => fault .unexpectedEnd size
        | u :: more =>
          let left ← settle more
          if u.sign == .plain '=' then return openLook s true false start left
          else if u.sign == .plain '!' then return openLook s true true start left
          else
            let cause : Cause := .unknownExtension ("<" ++ String.ofList u.chars)
            fault cause (tell size left - (u.length + 2))
      | _ =>
        if flagLetters.contains c || c == '-' then
          match ← readFlags size c left with
          | .scoped on off left =>
            return s.open' .plain start ((s.options.with on).without off) left
          | .global on left =>
            if s.frames.isEmpty && s.branches.isEmpty && s.parts.isEmpty then
              return { s with
                left, options := s.options.with on
                asciiSet := s.asciiSet || on.contains 'a'
                unicodeSet := s.unicodeSet || on.contains 'u' }
            else fault .lateGlobalFlags start
        else unknown
    | _ => unknown

/-- How often a repetition mark asks for. -/
structure Count where
  least : Nat
  most : Option Nat

/-- The greatest number a repetition mark may name, and one more. -/
def countLimit : Nat := 4294967295

/-- The number that digits name. -/
def readCount (ds : List Char) : Except Fault Nat :=
  if ds.length > 4300 then .error (.countTooLong ds.length)
  else if codeOf 10 ds ≥ countLimit then .error .countTooLarge
  else .ok (codeOf 10 ds)

/-- Reads a count in braces, from behind the opening one; nothing when it is no count and the brace
    stands for itself. -/
def readBraces (left : List Token) : Except Fault (Option (Count × List Token)) := do
  let start := tell 0 left
  let (low, rest) ← takeChars isPlainDigit left.length left
  let (high, rest) ← match ← accept? ',' rest with
    | some more => takeChars isPlainDigit more.length more
    | none => pure (low, rest)
  match ← accept? '}' rest with
  | none => return none
  | some after =>
    let least ← if low.isEmpty then pure 0 else readCount low
    let most ← if high.isEmpty then pure none else some <$> readCount high
    match most with
    | some m =>
      if m < least then fault .leastAboveMost start else return some (⟨least, some m⟩, after)
    | none => return some (⟨least, none⟩, after)

/-- Repeats the part before a repetition mark; `pos` is the place of the mark. -/
def repeatPart (s : State) (pos : Nat) (count : Count) (left : List Token) :
    Except Fault State := do
  match s.parts with
  | [] => fault .nothingToRepeat pos
  | .anchor _ :: _ => fault .nothingToRepeat pos
  | .loop _ :: _ => fault .multipleRepeat pos
  | .other n :: rest =>
    let (greed, left) ← match ← accept? '?' left with
      | some more => pure (Greed.lazy, more)
      | none => match ← accept? '+' left with
        | some more => pure (Greed.possessive, more)
        | none => pure (Greed.greedy, left)
    let s := if s.options.template then
        s.noteLate (.templateRepeat (match greed with
          | .greedy => "MAX_REPEAT"
          | .lazy => "MIN_REPEAT"
          | .possessive => "POSSESSIVE_REPEAT"))
      else s
    return { s with parts := .loop (.loop greed count.least count.most n) :: rest, left }

/-- The node an escape becomes. -/
def pieceNode (s : State) : Piece → Node
  | .code n => s.set [.code n] false
  | .named k negated => s.set [.named k negated] false
  | .anchor 'A' => .anchor .textStart
  | .anchor 'Z' => .anchor .textEnd
  | .anchor c => .anchor (.boundary s.options.ascii (c == 'B'))
  | .reference i => .backref i s.options.ignoreCase s.options.ascii

/-- The widths of look-behinds from which on they are too wide. -/
def farWidth : Nat := Nat.pow 2 31

/-- The width of a look-behind must be one number, and not too great; whether it is shows only
    late. -/
def State.checkWidth (s : State) (body : Node) : State × Nat :=
  let (low, high) := body.width s.groups.known
  if low != high then (s.noteLate .variableLookBehind, low)
  else ({ s with farLookBehind := s.farLookBehind || low ≥ farWidth }, low)

/-- Closes the innermost bracket. -/
def closeFrame (s : State) (f : Frame) (frames : List Frame) (left : List Token) : State :=
  let body := s.whole
  match f.opening with
  | .plain => s.close f frames body left
  | .atomic => s.close f frames (.atomic body) left
  | .ahead negated => s.close f frames (.ahead negated body) left
  | .behind negated outermost =>
    let (s, width) := s.checkWidth body
    let groups := if outermost then { s.groups with lookBehindFrom := none } else s.groups
    { s with groups }.close f frames (.behind width negated body) left
  | .capture i =>
    let width := body.width s.groups.known
    let groups := { s.groups with widths := s.groups.widths.set (i - 1) (some width) }
    { s with groups }.close f frames (.group i body) left
  | .present i => s.close f frames (.given i s.branch .empty) left
  | .absent i present => s.close f frames (.given i present s.branch) left

/-- A bar: the next branch begins, or the part of a condition for an absent group. -/
def nextBranch (s : State) (pos : Nat) (left : List Token) : Except Fault State :=
  match s.frames with
  | f :: frames =>
    match f.opening with
    | .present i =>
      .ok { s with
        left, parts := [], frames := { f with opening := .absent i s.branch } :: frames }
    | .absent _ _ => fault .tooManyBranches pos
    | _ => .ok { s with left, parts := [], branches := s.branch :: s.branches }
  | [] => .ok { s with left, parts := [], branches := s.branch :: s.branches }

/-- Skips a comment of a verbose pattern up to the end of its line. -/
def skipLine : List Token → Except Fault (List Token)
  | [] => .ok []
  | t :: rest => do
    let left ← settle rest
    if t.sign == .plain '\n' then return left else skipLine rest

def isVerboseBlank (c : Char) : Bool := c == ' ' || ('\t' ≤ c && c ≤ '\r')

/-- One character outside of sets and escapes that is neither a bar nor a closing bracket. -/
def readChar (size : Nat) (s : State) (c : Char) (pos : Nat) (left : List Token) :
    Except Fault State := do
  if s.options.verbose && isVerboseBlank c then return { s with left }
  if s.options.verbose && c == '#' then return { s with left := ← skipLine left }
  match c with
  | '.' => return s.addNode (.anyChar s.options.dotAll) left
  | '^' =>
    return s.add (.anchor (.anchor (if s.options.multiline then .lineStart else .textStart))) left
  | '$' =>
    return s.add (.anchor (.anchor (if s.options.multiline then .lineEnd else .lastLineEnd))) left
  | '*' => repeatPart s pos ⟨0, none⟩ left
  | '+' => repeatPart s pos ⟨1, none⟩ left
  | '?' => repeatPart s pos ⟨0, some 1⟩ left
  | '{' =>
    let itself := s.addNode (s.set [.code c.toNat] false) left
    match left with
    | ⟨_, .plain '}'⟩ :: _ => return itself
    | _ => match ← readBraces left with
      | some (count, left) => repeatPart s pos count left
      | none => return itself
  | '[' =>
    let (negated, left) ← match ← accept? '^' left with
      | some more => pure (true, more)
      | none => pure (false, left)
    let (items, left) ← readSet size pos (left.length + 1) [] left
    return s.addNode (s.set items negated) left
  | '(' => match ← accept? '?' left with
    | some more => readExtension size s pos more
    | none => openCapture size s none pos left
  | _ => return s.addNode (s.set [.code c.toNat] false) left

/-- One step of the machine on a token that was taken; nothing when it is a closing bracket that
    no opening one stands before. -/
def step (size : Nat) (s : State) (t : Token) (left : List Token) :
    Except Fault (Option State) := do
  match t.sign with
  | .dangling => fault .danglingEscape t.pos
  | .escaped c =>
    let (piece, left) ← readEscape s.groups size t.pos c left
    let node := pieceNode s piece
    return some (match piece with
      | .anchor _ => s.add (.anchor node) left
      | _ => s.addNode node left)
  | .plain '|' => some <$> nextBranch s t.pos left
  | .plain ')' => match s.frames with
    | [] => return none
    | f :: frames => return some (closeFrame s f frames left)
  | .plain c => some <$> readChar size s c t.pos left

/-- Runs the machine to the end of the text or to a closing bracket too many. Each step takes a
    token, so a fuel of one more than the number of tokens suffices. -/
def run (size : Nat) : Nat → State → Except Fault State
  | 0, s => .ok s
  | fuel + 1, s => match s.left with
    | [] => .ok s
    | t :: rest => do
      if t.sign == .plain ')' && s.frames.isEmpty then return s
      let left ← settle rest
      match ← step size s t left with
      | some next => run size fuel next
      | none => return s

/-- Reads a pattern. -/
def read (text : List Char) : Except Fault Node := do
  let size := text.length
  let ts ← settle (tokens text)
  let s ← run size (ts.length + 1) { left := ts }
  match s.frames with
  | f :: _ => fault .unterminatedGroup f.start
  | [] =>
    if s.asciiSet && s.unicodeSet then throw .asciiAndUnicode
    if !s.left.isEmpty then fault .unbalanced (tell size s.left)
    match s.asked.find? (·.1 > s.groups.widths.length) with
    | some (i, pos) => fault (.invalidGroup i) pos
    | none =>
      match s.late with
      | some f => throw f
      | none =>
        if s.farLookBehind then throw .wideLookBehind
        let root := s.whole
        return root.keepGroups root.lookedUp

end Reconcile.Pattern
