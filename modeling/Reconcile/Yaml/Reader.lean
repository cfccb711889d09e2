import Reconcile.Yaml.Node
import Reconcile.Yaml.Scalar

/-!
# Reading YAML

The value of a document. A mapping may merge other mappings in, and its own entries win over those;
a key that comes twice keeps its place and gets the later value. Faults are found level by level:
everything that a collection holds comes before what is inside of it. Only a key is read whole at
once.
-/

namespace Reconcile.Yaml

open Reconcile.Document

/-! ## 1. Nodes -/

namespace Node

def tag : Node → Tag
  | .scalar t _ | .sequence _ t _ | .mapping _ t _ | .again _ t => t

/-- The label of a collection. -/
def label? : Node → Option Nat
  | .sequence l _ _ | .mapping l _ _ => some l
  | .scalar _ _ | .again _ _ => none

/-- Whether the node becomes a collection, by its tag. -/
def isCollection (n : Node) : Bool :=
  match n.tag with
  | .seq | .map | .set | .omap | .pairs => true
  | _ => false

/-- The sign for a default value is a text when it is the key of an entry. -/
def asKey : Node → Node
  | .scalar .value text => .scalar .str text
  | n => n

mutual

/-- The text of a scalar, or of the default value of a mapping. -/
def text? : Node → Option String
  | .scalar _ text => some text
  | .sequence _ _ _ | .again _ _ => none
  | .mapping _ _ entries => defaultText? entries

/-- The text of the default value among the entries. -/
def defaultText? : List (Node × Node) → Option String
  | [] => none
  | (k, v) :: rest => if k.tag == .value then v.text? else defaultText? rest

end

/-! ## 2. Merging -/

/-- Entries that leave their mapping, which stands in full where it comes inside of itself. Only in a
    circular document it can. -/
def leaving (circular : Bool) (mapping : Node) (entries : List (Node × Node)) :
    List (Node × Node) :=
  match circular, mapping.label? with
  | true, some l => filledEntries l mapping entries
  | _, _ => entries

mutual

/-- The entries that are merged in, and a mapping's own entries. -/
def splitMerged (circular : Bool) :
    List (Node × Node) → Except Fault (List (Node × Node) × List (Node × Node))
  | [] => .ok ([], [])
  | (k, v) :: rest => do
    if k.tag == .merge then
      let here ← mergedIn circular v
      let (others, own) ← splitMerged circular rest
      return (here ++ others, own)
    else
      let (others, own) ← splitMerged circular rest
      return (others, (k.asKey, v) :: own)

/-- The entries that a node stands for as the value of a merge. What a mapping merges in of itself
    adds nothing to it. -/
def mergedIn (circular : Bool) : Node → Except Fault (List (Node × Node))
  | .mapping l tag entries => do
    let (others, own) ← splitMerged circular entries
    return leaving circular (.mapping l tag entries) (others ++ own)
  | .sequence _ _ items => allMergedIn circular items
  | .again _ .map => .ok []
  | .again _ _ | .scalar _ _ => .error (.malformed .badMerge)

/-- The entries of several mappings; earlier mappings win, so their entries come later. -/
def allMergedIn (circular : Bool) : List Node → Except Fault (List (Node × Node))
  | [] => .ok []
  | .mapping l tag entries :: rest => do
    let (others, own) ← splitMerged circular entries
    let here := leaving circular (.mapping l tag entries) (others ++ own)
    return (← allMergedIn circular rest) ++ here
  | .again _ .map :: rest => allMergedIn circular rest
  | _ :: _ => .error (.malformed .badMerge)

end

/-- The entries of a mapping: first what is merged in, then its own ones. -/
def entries (circular : Bool) : Node → Except Fault (List (Node × Node))
  | .mapping _ _ es => do
    let (others, own) ← splitMerged circular es
    return others ++ own
  | _ => .error (.malformed .wrongKind)

/-- The items of a sequence. -/
def items : Node → Except Fault (List Node)
  | .sequence _ _ ns => .ok ns
  | _ => .error (.malformed .wrongKind)

/-- The one entry of a mapping. -/
def singleEntry (circular : Bool) (n : Node) : Except Fault (Node × Node) :=
  match n with
  | .mapping _ _ [e] => .ok ((leaving circular n [e]).headD e)
  | _ => .error (.malformed .wrongKind)

/-- The value of a node that becomes no collection. -/
def simpleValue (n : Node) : Except Fault Value :=
  match n.text? with
  | some text => scalarValue n.tag text
  | none => .error (.malformed (if n.tag == .unknown then .unknownTag else .wrongKind))

/-! ## 3. Faults by level -/

/-- The collections among nodes, all of whose scalars must have values. -/
def collectionsAmong : List Node → Except Fault (List Node)
  | [] => .ok []
  | .again _ _ :: rest => collectionsAmong rest
  | n :: rest => do
    if n.isCollection then return n :: (← collectionsAmong rest)
    else
      let _ ← n.simpleValue
      collectionsAmong rest

/-- Everything inside of a node has a value, from the first to the last and each whole before the
    next; the keys of mappings are no collections, and no collection refers to one of those around
    that are not whole yet. The fuel exceeds the number of levels. -/
def checkWhole (circular : Bool) : Nat → List Nat → Node → Except Fault Unit
  | 0, _, _ => .ok ()
  | _, around, .again l _ => if around.contains l then malformed .unfinishedNode else .ok ()
  | fuel + 1, around, n => do
    let inside := n.label?.toList ++ around
    match n.tag with
    | .seq => (← n.items).forM (checkWhole circular fuel inside)
    | .map | .set =>
      (← n.entries circular).forM fun (k, v) => do
        checkWhole circular fuel inside k
        if k.isCollection then throw (.malformed .unhashableKey)
        checkWhole circular fuel inside v
    | .omap | .pairs =>
      (← n.items).forM fun item => do
        let (k, v) ← item.singleEntry circular
        checkWhole circular fuel inside k
        checkWhole circular fuel inside v
    | _ =>
      let _ ← n.simpleValue

/-- A key has a value, which is read whole before its entry's value, and is no collection. -/
def checkKey (circular : Bool) (fuel : Nat) (k : Node) : Except Fault Unit := do
  k.checkWhole circular fuel []
  if k.isCollection then throw (.malformed .unhashableKey)

/-- The collections among the values of entries. -/
def collectionsInEntries (circular : Bool) (fuel : Nat) :
    List (Node × Node) → Except Fault (List Node)
  | [] => .ok []
  | (k, v) :: rest => do
    k.checkKey circular fuel
    let here ← collectionsAmong [v]
    return here ++ (← collectionsInEntries circular fuel rest)

/-- The collections among the pairs of an ordered mapping, whose keys may be anything. -/
def collectionsInPairs (circular : Bool) : List Node → Except Fault (List Node)
  | [] => .ok []
  | n :: rest => do
    let (k, v) ← n.singleEntry circular
    let here ← collectionsAmong [k, v]
    return here ++ (← collectionsInPairs circular rest)

/-- The collections directly inside of a collection. -/
def collectionsInside (circular : Bool) (fuel : Nat) (n : Node) : Except Fault (List Node) := do
  match n.tag with
  | .seq => collectionsAmong (← n.items)
  | .map | .set => collectionsInEntries circular fuel (← n.entries circular)
  | _ => collectionsInPairs circular (← n.items)

/-- The nodes of a level whose labels did not come before. -/
def unseen (seen : List Nat) : List Node → List Node
  | [] => []
  | n :: rest => match n.label? with
    | some l => if seen.contains l then unseen seen rest else n :: unseen (l :: seen) rest
    | none => n :: unseen seen rest

/-- Checks one level after the other, every collection once. The fuel exceeds the number of
    levels. -/
def checkLevels (circular : Bool) : Nat → List Nat → List Node → Except Fault Unit
  | 0, _, _ => .ok ()
  | _, _, [] => .ok ()
  | fuel + 1, seen, level => do
    let fresh := unseen seen level
    let inside ← fresh.mapM (collectionsInside circular fuel)
    checkLevels circular fuel (fresh.filterMap label? ++ seen) inside.flatten

/-! ## 4. Values -/

/-- The values of the collections that are read already, by their labels. -/
abbrev Known := List (Nat × Value)

/-- A collection that is read. In a circular document its value keeps the label, as it may come again
    inside of itself; in any other it is known from now on. -/
def finished (circular : Bool) (n : Node) (v : Value) : StateT Known (Except Fault) Value := do
  match circular, n.label? with
  | true, some l => return .labelled l v
  | false, some l =>
    modify ((l, v) :: ·)
    return v
  | _, none => return v

/-- The value of a collection that is known already. -/
def known? (n : Node) (known : Known) : Option Value := n.label?.bind fun l => known.lookup l

/-- The value of a node. A collection that is known already is not read again. The fuel exceeds the
    number of levels. -/
def value (circular : Bool) : Nat → Node → StateT Known (Except Fault) Value
  | 0, _ => throw (.malformed .wrongKind)
  | _, .again l tag => return .again l (tag == .map)
  | fuel + 1, n => do
    if let some v := n.known? (← get) then return v
    match n.tag with
    | .seq => finished circular n (.list (← (← n.items).mapM (value circular fuel)))
    | .map =>
      let pairs ← (← n.entries circular).mapM fun (k, v) => do
        return (← k.simpleValue, ← value circular fuel v)
      finished circular n (.ofPairs pairs)
    | .set =>
      let keys ← (← n.entries circular).mapM fun (k, _) => k.simpleValue
      return .set ((keys.foldl (fun es k => Value.put es k .null) []).map (·.1))
    | .omap | .pairs =>
      let pairs ← (← n.items).mapM fun item => do
        let (k, v) ← item.singleEntry circular
        return Value.tuple [← value circular fuel k, ← value circular fuel v]
      finished circular n (.list pairs)
    | _ => n.simpleValue

end Node

/-! ## 5. Texts -/

/-- The value of a text; a text without a document has the value null. -/
def read (text : List Char) : Except Fault Value := do
  let ts ← tokens text
  match ← Composer.readDocument ts with
  | none => return .null
  | some ⟨n, circular⟩ =>
    let levels := Nat.pow (ts.length + 1) 2
    Node.checkLevels circular levels [] (← Node.collectionsAmong [n])
    (n.value circular levels).run' []

end Reconcile.Yaml
