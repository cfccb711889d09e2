import Reconcile.Text.Blank
import Reconcile.Text.DecimalDigit
import Reconcile.Text.Word
import Reconcile.Text.Casing

/-!
# Patterns

The tree of a regular pattern. Options such as the disregard of case are resolved when a pattern
is read, so every node says by itself what it accepts. Sequences and alternatives have two parts
each; longer ones nest to the right.
-/

namespace Reconcile.Pattern

open Reconcile.Text

/-! ## 1. Sets of characters -/

/-- The named classes of characters. -/
inductive Class where
  | digit
  | space
  | word
  deriving DecidableEq, Repr

/-- Whether a character is in a class; the ASCII classes know ASCII characters only. -/
def Class.has (ascii : Bool) (k : Class) (c : Char) : Bool :=
  match k with
  | .digit => if ascii then isPlainDigit c else isDigit c
  | .space => if ascii then c == ' ' || ('\t' ≤ c && c ≤ '\r') else isBlank c
  | .word => if ascii then c == '_' || c.isAlphanum else isWord c

/-- A member of a set of characters. -/
inductive Item where
  | code (n : Nat)
  | range (low high : Nat)
  | named (k : Class) (negated : Bool)
  deriving DecidableEq, Repr

/-- The codes a character is looked up under when case is ignored. -/
def codesOf (ascii : Bool) (c : Char) : List Nat :=
  if ascii then
    if 'a' ≤ c && c ≤ 'z' then [c.toNat, c.toNat - 32]
    else if 'A' ≤ c && c ≤ 'Z' then [c.toNat, c.toNat + 32]
    else [c.toNat]
  else c.toNat :: caseVariants c.toNat

def Item.has (ascii : Bool) (codes : List Nat) (c : Char) : Item → Bool
  | .code n => codes.contains n
  | .range low high => codes.any fun n => low ≤ n && n ≤ high
  | .named k negated => k.has ascii c != negated

/-- A set of characters, or its complement. -/
structure CharSet where
  items : List Item
  negated : Bool := false
  ignoreCase : Bool := false
  ascii : Bool := false
  deriving DecidableEq, Repr

def CharSet.has (s : CharSet) (c : Char) : Bool :=
  let codes := if s.ignoreCase then codesOf s.ascii c else [c.toNat]
  s.items.any (·.has s.ascii codes c) != s.negated

/-! ## 2. The tree -/

/-- A condition on a place in the text. -/
inductive Anchor where
  | textStart
  | textEnd
  | lineStart
  | lineEnd
  /-- the end of the text, or before a line feed that ends it -/
  | lastLineEnd
  | boundary (ascii negated : Bool)
  deriving DecidableEq, Repr

/-- How often a repeated part is tried: as often as possible first, as seldom as possible first,
    or as often as possible without ever giving back. -/
inductive Greed where
  | greedy
  | lazy
  | possessive
  deriving DecidableEq, Repr

/-- A regular pattern. -/
inductive Node where
  | empty
  | one (set : CharSet)
  | anyChar (dotAll : Bool)
  | anchor (a : Anchor)
  | seq (first second : Node)
  | alt (first second : Node)
  | loop (greed : Greed) (least : Nat) (most : Option Nat) (body : Node)
  | group (index : Nat) (body : Node)
  | backref (index : Nat) (ignoreCase ascii : Bool)
  | ahead (negated : Bool) (body : Node)
  | behind (width : Nat) (negated : Bool) (body : Node)
  | atomic (body : Node)
  | given (index : Nat) (present absent : Node)
  deriving Repr, Inhabited

namespace Node

/-- One literal character. -/
def literal (c : Char) : Node := .one { items := [.code c.toNat] }

/-- The nodes one after the other. -/
def sequence : List Node → Node
  | [] => .empty
  | [n] => n
  | n :: rest => .seq n (sequence rest)

/-- The first of the nodes that leads to a match. -/
def alternatives : List Node → Node
  | [] => .empty
  | [n] => n
  | n :: rest => .alt n (alternatives rest)

/-- The groups whose text other parts of the pattern look at. -/
def lookedUp : Node → List Nat
  | .empty | .one _ | .anyChar _ | .anchor _ => []
  | .seq a b | .alt a b => a.lookedUp ++ b.lookedUp
  | .loop _ _ _ b | .group _ b | .ahead _ b | .behind _ _ b | .atomic b => b.lookedUp
  | .backref i _ _ => [i]
  | .given i a b => i :: (a.lookedUp ++ b.lookedUp)

/-- The pattern without the groups that need not be kept. -/
def keepGroups (keep : List Nat) : Node → Node
  | .seq a b => .seq (a.keepGroups keep) (b.keepGroups keep)
  | .alt a b => .alt (a.keepGroups keep) (b.keepGroups keep)
  | .loop g least most b => .loop g least most (b.keepGroups keep)
  | .group i b => if keep.contains i then .group i (b.keepGroups keep) else b.keepGroups keep
  | .ahead n b => .ahead n (b.keepGroups keep)
  | .behind w n b => .behind w n (b.keepGroups keep)
  | .atomic b => .atomic (b.keepGroups keep)
  | .given i a b => .given i (a.keepGroups keep) (b.keepGroups keep)
  | n => n

/-! ## 3. Width -/

/-- The least widths are counted up to this. -/
def leastLimit : Nat := Nat.pow 2 32 - 2

/-- The greatest widths are counted up to this, which stands for every greater one as well. -/
def mostLimit : Nat := Nat.pow 2 32 - 1

/-- The least and the greatest number of characters a pattern can take, as far as they are counted,
    given the widths of the groups it refers to. -/
def width (groups : List (Nat × Nat)) : Node → Nat × Nat
  | .empty | .anchor _ | .ahead _ _ | .behind _ _ _ => (0, 0)
  | .one _ | .anyChar _ => (1, 1)
  | .seq a b =>
    let (l, h) := a.width groups
    let (l', h') := b.width groups
    (min (l + l') leastLimit, min (h + h') mostLimit)
  | .alt a b =>
    let (l, h) := a.width groups
    let (l', h') := b.width groups
    (min l l', max h h')
  | .loop _ least most b =>
    let (l, h) := b.width groups
    (min (l * least) leastLimit, min (h * most.getD mostLimit) mostLimit)
  | .group _ b | .atomic b => b.width groups
  | .backref i _ _ => (groups[i - 1]?).getD (0, 0)
  | .given _ a b =>
    let (l, h) := a.width groups
    let (l', h') := b.width groups
    (min l l', max h h')

end Node

end Reconcile.Pattern
