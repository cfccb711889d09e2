import Reconcile.Yaml.Lexer
import Reconcile.Yaml.Tag

/-!
# From tokens to nodes

The tree of a YAML document. A node may have a name by which later nodes refer to it, and a tag; a
node that is not written at all is an empty scalar. Every collection has a label of its own, which
stands where the collection refers to itself. Of several documents there must be one at most.
-/

namespace Reconcile.Yaml

/-- A node of a document. -/
inductive Node where
  | scalar (tag : Tag) (text : String)
  | sequence (label : Nat) (tag : Tag) (items : List Node)
  | mapping (label : Nat) (tag : Tag) (entries : List (Node × Node))
  /-- the collection around with a label, and its tag -/
  | again (label : Nat) (tag : Tag)
  deriving Repr

namespace Node

mutual

/-- The node with a collection in the places where its label stands. -/
def filled (label : Nat) (collection : Node) : Node → Node
  | .again l tag => if l == label then collection else .again l tag
  | .sequence l tag items => .sequence l tag (filledItems label collection items)
  | .mapping l tag entries => .mapping l tag (filledEntries label collection entries)
  | .scalar tag text => .scalar tag text

def filledItems (label : Nat) (collection : Node) : List Node → List Node
  | [] => []
  | n :: rest => filled label collection n :: filledItems label collection rest

def filledEntries (label : Nat) (collection : Node) : List (Node × Node) → List (Node × Node)
  | [] => []
  | (k, v) :: rest =>
    (filled label collection k, filled label collection v) :: filledEntries label collection rest

end

end Node

/-- What is left of the tokens, the nodes with names, how many labels are given, whether a collection
    refers to itself, and what the handles of tags stand for. -/
structure Composer where
  left : List Token
  anchors : List (String × Node) := []
  labels : Nat := 0
  circular : Bool := false
  handles : List (String × String) := []

namespace Composer

/-- The node that is not written. -/
def emptyNode : Node := .scalar (Tag.ofPlain "") ""

def drop (c : Composer) : Composer := { c with left := c.left.drop 1 }

/-- Whether one of the given tokens comes next. -/
def isNext (c : Composer) (ts : List Token) : Bool := c.left.head?.any ts.contains

/-! ## 1. Properties -/

/-- The name and the tag that are written before a node. -/
structure Properties where
  anchor : Option String := none
  tag : Option (Option String × String) := none

/-- Reads the properties of a node, in either order. -/
def properties (c : Composer) : Properties × Composer :=
  match c.left with
  | .anchor a :: .tag h s :: rest => (⟨some a, some (h, s)⟩, { c with left := rest })
  | .anchor a :: rest => (⟨some a, none⟩, { c with left := rest })
  | .tag h s :: .anchor a :: rest => (⟨some a, some (h, s)⟩, { c with left := rest })
  | .tag h s :: rest => (⟨none, some (h, s)⟩, { c with left := rest })
  | _ => ({}, c)

/-- The full name of a tag. -/
def tagName (c : Composer) : Option (Option String × String) → Except Fault (Option String)
  | none => .ok none
  | some (none, suffix) => .ok (some suffix)
  | some (some handle, suffix) => match c.handles.lookup handle with
    | some expansion => .ok (some (expansion ++ suffix))
    | none => malformed .badTag

/-- The tag of a collection: its own, or the one that it has without. -/
def collectionTag (fallback : Tag) : Option String → Tag
  | none => fallback
  | some "!" => fallback
  | some name => .ofName name

/-- The tag of a scalar: its own, or the one that its text looks like. -/
def scalarTag (text : String) (plain : Bool) : Option String → Tag
  | none => if plain then .ofPlain text else .str
  | some "!" => .ofPlain text
  | some name => .ofName name

/-- Gives a node its name. -/
def named (c : Composer) (anchor : Option String) (n : Node) : Except Fault (Node × Composer) :=
  match anchor with
  | none => .ok (n, c)
  | some a =>
    if (c.anchors.lookup a).isSome then malformed .duplicateAnchor
    else .ok (n, { c with anchors := (a, n) :: c.anchors })

/-- Begins a collection: it has the next label, and its name stands for it from now on. -/
def begun (c : Composer) (anchor : Option String) (tag : Tag) : Except Fault (Nat × Composer) := do
  let (_, c) ← c.named anchor (.again c.labels tag)
  return (c.labels, { c with labels := c.labels + 1 })

/-- Ends a collection: its name stands for all of it, also inside of other nodes with names. -/
def ended (c : Composer) (anchor : Option String) (label : Nat) (n : Node) : Node × Composer :=
  if c.circular then
    (n, { c with anchors := c.anchors.map fun (a, m) => (a, Node.filled label n m) })
  else match anchor with
    | some a => (n, { c with anchors := (a, n) :: c.anchors })
    | none => (n, c)

/-! ## 2. Nodes -/

mutual

/-- Reads a node. Block collections are not possible inside of brackets, and a sequence without an
    indentation of its own only as the key or the value of a block mapping. -/
def readNode : Nat → Bool → Bool → Composer → Except Fault (Node × Composer)
  | 0, _, _, _ => malformed .unexpectedToken
  | fuel + 1, block, indentless, c => do
    if let .alias name :: rest := c.left then
      match c.anchors.lookup name with
      | some n =>
        let inside := n matches .again _ _
        return (n, { c with left := rest, circular := c.circular || inside })
      | none => malformed .undefinedAlias
    else
    let (p, c) := c.properties
    let tag ← c.tagName p.tag
    if indentless && c.isNext [.blockEntry] then
      let tag := collectionTag .seq tag
      let (label, c) ← c.begun p.anchor tag
      let (items, c) ← readIndentless fuel [] c
      return c.ended p.anchor label (.sequence label tag items)
    else match c.left with
      | .scalar text plain :: rest =>
        ({ c with left := rest } : Composer).named p.anchor
          (.scalar (scalarTag text plain tag) text)
      | .flowSequenceStart :: rest =>
        let tag := collectionTag .seq tag
        let (label, c) ← c.begun p.anchor tag
        let (items, c) ← readFlowSequence fuel true [] { c with left := rest }
        return c.ended p.anchor label (.sequence label tag items)
      | .flowMappingStart :: rest =>
        let tag := collectionTag .map tag
        let (label, c) ← c.begun p.anchor tag
        let (entries, c) ← readFlowMapping fuel true [] { c with left := rest }
        return c.ended p.anchor label (.mapping label tag entries)
      | t :: rest =>
        if block && t == .blockSequenceStart then
          let tag := collectionTag .seq tag
          let (label, c) ← c.begun p.anchor tag
          let (items, c) ← readBlockSequence fuel [] { c with left := rest }
          return c.ended p.anchor label (.sequence label tag items)
        else if block && t == .blockMappingStart then
          let tag := collectionTag .map tag
          let (label, c) ← c.begun p.anchor tag
          let (entries, c) ← readBlockMapping fuel [] { c with left := rest }
          return c.ended p.anchor label (.mapping label tag entries)
        else if p.anchor.isSome || tag.isSome then
          c.named p.anchor (.scalar (scalarTag "" true tag) "")
        else malformed .unexpectedToken
      | [] => malformed .unexpectedToken

/-- Reads a node, or the empty one when one of the given tokens comes. -/
def readUnless : Nat → List Token → Bool → Bool → Composer → Except Fault (Node × Composer)
  | 0, _, _, _, _ => malformed .unexpectedToken
  | fuel + 1, stops, block, indentless, c =>
    if c.isNext stops then .ok (emptyNode, c) else readNode fuel block indentless c

/-- The entries of a block sequence. -/
def readBlockSequence : Nat → List Node → Composer → Except Fault (List Node × Composer)
  | 0, _, _ => malformed .unexpectedToken
  | fuel + 1, acc, c =>
    match c.left with
    | .blockEntry :: rest => do
      let (n, c) ← readUnless fuel [.blockEntry, .blockEnd] true false { c with left := rest }
      readBlockSequence fuel (n :: acc) c
    | .blockEnd :: rest => .ok (acc.reverse, { c with left := rest })
    | _ => malformed .unexpectedToken

/-- The entries of a sequence without an indentation of its own. -/
def readIndentless : Nat → List Node → Composer → Except Fault (List Node × Composer)
  | 0, _, _ => malformed .unexpectedToken
  | fuel + 1, acc, c =>
    match c.left with
    | .blockEntry :: rest => do
      let (n, c) ← readUnless fuel [.blockEntry, .key, .value, .blockEnd] true false
        { c with left := rest }
      readIndentless fuel (n :: acc) c
    | _ => .ok (acc.reverse, c)

/-- The value of a mapping, when there is one. -/
def readMappingValue : Nat → List Token → Bool → Composer → Except Fault (Node × Composer)
  | 0, _, _, _ => malformed .unexpectedToken
  | fuel + 1, stops, block, c =>
    match c.left with
    | .value :: rest => readUnless fuel stops block block { c with left := rest }
    | _ => .ok (emptyNode, c)

/-- The entries of a block mapping. -/
def readBlockMapping : Nat → List (Node × Node) → Composer →
    Except Fault (List (Node × Node) × Composer)
  | 0, _, _ => malformed .unexpectedToken
  | fuel + 1, acc, c =>
    let stops : List Token := [.key, .value, .blockEnd]
    match c.left with
    | .key :: rest => do
      let (k, c) ← readUnless fuel stops true true { c with left := rest }
      let (v, c) ← readMappingValue fuel stops true c
      readBlockMapping fuel ((k, v) :: acc) c
    | .blockEnd :: rest => .ok (acc.reverse, { c with left := rest })
    | _ => malformed .unexpectedToken

/-- The entries of a sequence in brackets; an entry with a key is a mapping of its own. -/
def readFlowSequence : Nat → Bool → List Node → Composer →
    Except Fault (List Node × Composer)
  | 0, _, _, _ => malformed .unexpectedToken
  | fuel + 1, first, acc, c => do
    if c.isNext [.flowSequenceEnd] then return (acc.reverse, c.drop)
    if !first && !c.isNext [.flowEntry] then malformed .unexpectedToken
    let c := if first then c else c.drop
    match c.left with
    | .flowSequenceEnd :: rest => return (acc.reverse, { c with left := rest })
    | .key :: rest =>
      let stops : List Token := [.flowEntry, .flowSequenceEnd]
      let (k, c) ← readUnless fuel (.value :: stops) false false { c with left := rest }
      let (v, c) ← readMappingValue fuel stops false c
      let (label, c) ← c.begun none .map
      readFlowSequence fuel false (.mapping label .map [(k, v)] :: acc) c
    | _ =>
      let (n, c) ← readNode fuel false false c
      readFlowSequence fuel false (n :: acc) c

/-- The entries of a mapping in brackets; an entry without a key indicator has no value. -/
def readFlowMapping : Nat → Bool → List (Node × Node) → Composer →
    Except Fault (List (Node × Node) × Composer)
  | 0, _, _, _ => malformed .unexpectedToken
  | fuel + 1, first, acc, c => do
    if c.isNext [.flowMappingEnd] then return (acc.reverse, c.drop)
    if !first && !c.isNext [.flowEntry] then malformed .unexpectedToken
    let c := if first then c else c.drop
    match c.left with
    | .flowMappingEnd :: rest => return (acc.reverse, { c with left := rest })
    | .key :: rest =>
      let stops : List Token := [.flowEntry, .flowMappingEnd]
      let (k, c) ← readUnless fuel (.value :: stops) false false { c with left := rest }
      let (v, c) ← readMappingValue fuel stops false c
      readFlowMapping fuel false ((k, v) :: acc) c
    | _ =>
      let (n, c) ← readNode fuel false false c
      readFlowMapping fuel false ((n, emptyNode) :: acc) c

end

/-! ## 3. Documents -/

/-- The handles of tags that every document has. -/
def defaultHandles : List (String × String) := [("!", "!"), ("!!", tagSpace)]

/-- Reads the directives of a document: one version at most, which must be 1, and every handle
    once. -/
def readDirectives (versioned : Bool) (handles : List (String × String)) :
    List Token → Except Fault (List (String × String) × List Token)
  | .directive (.version major _) :: rest =>
    if versioned || major != 1 then malformed .badDirective
    else readDirectives true handles rest
  | .directive (.handle name expansion) :: rest =>
    if (handles.lookup name).isSome then malformed .badDirective
    else readDirectives versioned ((name, expansion) :: handles) rest
  | .directive .other :: rest => readDirectives versioned handles rest
  | left => .ok (handles, left)

/-- More fuel than reading the tokens takes. -/
def fuelFor (ts : List Token) : Nat := 4 * ts.length + 8

/-- Checks that nothing but the end of the text follows a document. -/
def checkEnd (c : Composer) : Except Fault Unit :=
  match c.left.dropWhile (· == .documentEnd) with
  | .textEnd :: _ => .ok ()
  | _ => malformed .severalDocuments

/-- A document: its node, and whether a collection in it refers to itself. -/
structure Document where
  root : Node
  circular : Bool

/-- Reads the content of a document. -/
def readContent (c : Composer) : Except Fault Document := do
  let isEmpty := match c.left with
    | .directive _ :: _ | .documentStart :: _ | .documentEnd :: _ | .textEnd :: _ => true
    | _ => false
  let (n, c) ← if isEmpty then pure (emptyNode, c) else readNode (fuelFor c.left) true false c
  c.checkEnd
  return ⟨n, c.circular⟩

/-- The document that the tokens make, if they make one. -/
def readDocument (ts : List Token) : Except Fault (Option Document) := do
  let explicit := match ts with
    | .directive _ :: _ | .documentStart :: _ => true
    | _ => false
  match ts with
  | .textEnd :: _ => return none
  | _ =>
    if explicit then
      let (handles, left) ← readDirectives false [] ts
      match left with
      | .documentStart :: rest =>
        some <$> readContent { left := rest, handles := handles ++ defaultHandles }
      | _ => malformed .badDirective
    else
      let (n, c) ← readNode (fuelFor ts) true false { left := ts, handles := defaultHandles }
      c.checkEnd
      return some ⟨n, c.circular⟩

end Composer

end Reconcile.Yaml
