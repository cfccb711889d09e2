import Reconcile.Pattern.Node

/-!
# Matching

Where a pattern can end. `ends` lists, for a place in the text, the places where a match of the
pattern that starts there can end, the preferred one first and none twice. A text matches as a
whole when one of the ends is the end of the text. Because no place is listed twice, the list is
no longer than there are places, however many ways lead to each.

A repeated part is walked depth first over the places it reaches; a place that was walked before
has nothing new to offer, so the walk goes over each place once.
-/

namespace Reconcile.Pattern

open Reconcile.Text

/-- What a group holds: its index and the part of the text from one position up to another. -/
structure Capture where
  index : Nat
  start : Nat
  stop : Nat
  deriving DecidableEq, Repr

/-- A place in the text, with what the groups hold there, by ascending index. -/
structure Place where
  pos : Nat
  captures : List Capture
  deriving DecidableEq, Repr

namespace Place

/-- Captures by ascending index with one more, in place of an older one of its index. -/
def insertCapture (new : Capture) : List Capture → List Capture
  | [] => [new]
  | c :: rest =>
    if new.index < c.index then new :: c :: rest
    else if new.index = c.index then new :: rest
    else c :: insertCapture new rest

def capture? (p : Place) (index : Nat) : Option Capture := p.captures.find? (·.index == index)

end Place

/-! ## 1. Lists of places -/

/-- The list without the places that it holds before. -/
def distinct : List Place → List Place
  | ps => ps.foldl (fun acc p => if acc.contains p then acc else p :: acc) [] |>.reverse

/-- The ends of a second step from every end of the first. -/
def thenEnds (first : List Place) (second : Place → List Place) : List Place :=
  match first with
  | [p] => second p
  | _ => distinct (first.flatMap second)

/-! ## 2. Repetition -/

/-- A walk over places: those seen, and those found as ends, latest first. -/
structure Walk where
  seen : List (Place × Option Nat)
  found : List Place

/-- Adds an end. -/
def Walk.emit (w : Walk) (p : Place) : Walk :=
  if w.found.contains p then w else { w with found := p :: w.found }

/-- One more repetition: the number that is left after it. -/
def fewer (left : Option Nat) : Option Nat := left.map (· - 1)

/-- Walks depth first over the places that repetitions reach. A repetition that goes nowhere is
    an end but is not repeated. A lazy walk lists a place before those behind it, a greedy one
    after them. The fuel bounds the number of repetitions that go on. -/
def walk (step : Place → List Place) (lazy : Bool) : Nat → Option Nat → Place → Walk → Walk
  | 0, _, p, w => w.emit p
  | fuel + 1, left, p, w =>
    if w.seen.contains (p, left) then w
    else
      let w := { w with seen := (p, left) :: w.seen }
      let w := if lazy then w.emit p else w
      let w := if left == some 0 then w
        else (step p).foldl (fun w q =>
          if q.pos == p.pos then w.emit q else walk step lazy fuel (fewer left) q w) w
      if lazy then w else w.emit p

/-- The places after exactly the given number of repetitions. A repetition that changes nothing
    ends the count early. -/
def exactly (step : Place → List Place) : Nat → List Place → List Place
  | 0, ps => ps
  | n + 1, ps =>
    let next := thenEnds ps step
    if next == ps then ps else if next.isEmpty then [] else exactly step n next

/-- Repeats the preferred way as long as it goes on. -/
def rush (step : Place → List Place) : Nat → Option Nat → Place → Place
  | 0, _, p => p
  | fuel + 1, left, p =>
    if left == some 0 then p
    else match step p with
      | [] => p
      | q :: _ => if q.pos == p.pos then q else rush step fuel (fewer left) q

/-- Repeats the preferred way exactly the given number of times. -/
def rushExactly (step : Place → List Place) : Nat → Place → Option Place
  | 0, p => some p
  | n + 1, p => match step p with
    | [] => none
    | q :: _ => if q == p then some p else rushExactly step n q

/-! ## 3. Conditions -/

/-- Whether the character at a position is a word character; outside the text there is none. -/
def wordAt (ascii : Bool) (text : Array Char) (pos : Nat) : Bool :=
  match text[pos]? with
  | some c => Class.word.has ascii c
  | none => false

def Anchor.holds (text : Array Char) (pos : Nat) : Anchor → Bool
  | .textStart => pos == 0
  | .textEnd => pos == text.size
  | .lineStart => pos == 0 || text[pos - 1]? == some '\n'
  | .lineEnd => pos == text.size || text[pos]? == some '\n'
  | .lastLineEnd => pos == text.size || (pos + 1 == text.size && text[pos]? == some '\n')
  | .boundary ascii negated =>
    text.size != 0 &&
      (((pos != 0 && wordAt ascii text (pos - 1)) != wordAt ascii text pos) != negated)

/-- Whether two characters are equal, regardless of case if asked to. -/
def sameChar (ignoreCase ascii : Bool) (a b : Char) : Bool :=
  a == b ||
    (ignoreCase &&
      (if ascii then a.toLower == b.toLower else lowerCode a.toNat == lowerCode b.toNat))

/-- Whether the text from one position on repeats the given number of characters of another. -/
def repeatsAt (ignoreCase ascii : Bool) (text : Array Char) (source pos : Nat) : Nat → Bool
  | 0 => true
  | n + 1 =>
    match text[source]?, text[pos]? with
    | some a, some b =>
      sameChar ignoreCase ascii a b && repeatsAt ignoreCase ascii text (source + 1) (pos + 1) n
    | _, _ => false

/-! ## 4. Ends -/

/-- One character that passes a test. -/
def oneEnd (text : Array Char) (test : Char → Bool) (p : Place) : List Place :=
  match text[p.pos]? with
  | some c => if test c then [{ p with pos := p.pos + 1 }] else []
  | none => []

/-- The places where a match of the pattern from the given place can end, preferred ones first. -/
def ends (text : Array Char) : Node → Place → List Place
  | .empty, p => [p]
  | .one set, p => oneEnd text set.has p
  | .anyChar dotAll, p => oneEnd text (fun c => dotAll || c != '\n') p
  | .anchor a, p => if a.holds text p.pos then [p] else []
  | .seq a b, p => thenEnds (ends text a p) (ends text b)
  | .alt a b, p => distinct (ends text a p ++ ends text b p)
  | .loop greed least most body, p =>
    let step := ends text body
    let left := most.map (· - least)
    match greed with
    | .possessive =>
      match rushExactly step least p with
      | some q => [rush step (text.size + 1 - q.pos) left q]
      | none => []
    | _ =>
      let lazy := greed == .lazy
      thenEnds (exactly step least [p]) fun q =>
        (walk step lazy (text.size + 1 - q.pos) left q ⟨[], []⟩).found.reverse
  | .group i body, p =>
    (ends text body p).map fun q =>
      { q with captures := Place.insertCapture ⟨i, p.pos, q.pos⟩ q.captures }
  | .backref i ignoreCase ascii, p =>
    match p.capture? i with
    | some c =>
      if repeatsAt ignoreCase ascii text c.start p.pos (c.stop - c.start) then
        [{ p with pos := p.pos + (c.stop - c.start) }]
      else []
    | none => []
  | .ahead negated body, p =>
    match ends text body p with
    | [] => if negated then [p] else []
    | q :: _ => if negated then [] else [{ q with pos := p.pos }]
  | .behind width negated body, p =>
    let reached := if width ≤ p.pos then ends text body { p with pos := p.pos - width } else []
    match reached with
    | [] => if negated then [p] else []
    | q :: _ => if negated then [] else [{ q with pos := p.pos }]
  | .atomic body, p => (ends text body p).take 1
  | .given i present absent, p =>
    if (p.capture? i).isSome then ends text present p else ends text absent p

/-- The place where a text starts. -/
def Place.origin : Place := ⟨0, []⟩

/-- Whether the pattern takes the whole text. -/
def Node.accepts (n : Node) (s : String) : Bool :=
  let text := s.toList.toArray
  (ends text n Place.origin).any (·.pos == text.size)

/-- Whether the pattern takes some part of the text. -/
def Node.occursIn (n : Node) (s : String) : Bool :=
  let text := s.toList.toArray
  (List.range (text.size + 1)).any fun start => !(ends text n ⟨start, []⟩).isEmpty

/-- The preferred match from the start of the text. -/
def Node.matchStart (n : Node) (s : String) : Option Place :=
  (ends s.toList.toArray n Place.origin).head?

end Reconcile.Pattern
