import Reconcile.Journal.Record
import Reconcile.Message.Claim
import Reconcile.Settings.Basic

/-!
# Comparison of messages

The fields of the expected message are checked one by one, then its repeating groups: every expected
message of a group is compared with the actual one it claims, or reported as not found, and actual
ones that nobody claimed are reported as the policy says. What the expected message does not name
is not looked at.
-/

namespace Reconcile.Message

open Reconcile.Diff Reconcile.Document Reconcile.Expectation Reconcile.Journal

/-- How messages are compared. -/
structure Comparator where
  serviceFields : List String := []
  extraPolicy : ExtraPolicy := .ignore
  saveFields : Bool := false
  saveGroupFields : Bool := false
  groupKeyFields : List (String × List String) := []

namespace Comparator

/-- The comparator that settings ask for. -/
def ofSettings (s : Settings) (saveFields saveGroupFields : Bool) : Comparator :=
  { serviceFields := s.serviceFields, extraPolicy := s.messageExtraPolicy, saveFields
    saveGroupFields, groupKeyFields := s.groupKeyFields }

/-- The fields that are never compared. -/
def skipped (c : Comparator) : List String := c.serviceFields ++ routingFields

end Comparator

/-! ## 1. Nodes -/

/-- The name of the node of a message: the group it stands for, or where it comes from. -/
def nodeName (type : String) (expected : Message) : String :=
  match expected.field sourceField with
  | some s => if s.isEmpty then type else s
  | none => type

/-- The node of a message whose type is not the expected one, if so. -/
def typeFailure (name : String) (expected actual : Message) :
    Except Breakdown (Option Tree) :=
  let wanted := expected.field typeField
  let found := actual.field typeField
  let failure (outcome : Outcome) (error : Option String) : Option Tree :=
    some ((Tree.failure "Message types don't match." (some name)).addField
      { name := typeField, expected := wanted, actual := found, outcome, error })
  if isAbsentOrEmpty wanted then .ok none
  else match accepts wanted found with
    | .ok true => .ok none
    | .ok false => .ok (failure .mismatch none)
    | .error (.malformed c) => .ok (failure .error (some c.message))
    | .error (.breakdown b) => .error b

/-- The leaves of the fields of a message. -/
def fieldLeaves (skipped : List String) (expected actual : Message) :
    Except Breakdown (List Leaf) :=
  (expected.fieldNames.filter fun n => !skipped.contains n).mapM fun n =>
    check n (expected.field n) (actual.field n) (some .nullOrEmpty)

/-- The node of an expected message of a group that nobody answers to. -/
def notFound (type : String) (expected : Message) (error : Option String) : Tree :=
  let source := expected.field sourceField
  let comment := "Repeating group with type '" ++ type ++ "' from sub-action '" ++
    source.getD "None" ++ "' not found in received message"
  let node := Tree.failure comment (some (nodeName type expected))
  match error with
  | some e => node.addField
      { name := sourceField, expected := source, actual := none, outcome := .error
        error := some e }
  | none => node

/-- The node of an actual message of a group that nobody claimed. -/
def extraBlock (type : String) (outcome : Outcome) (number : Nat) (m : Message) : Tree :=
  { name := some (type ++ " #" ++ toString number)
    fields := m.fields.map fun (n, v) => { name := n, expected := none, actual := v, outcome } }

/-- The node of the actual messages of a group that nobody claimed, when they are reported. -/
def extraNode (policy : ExtraPolicy) (type : String) (left : List Message) : List Tree :=
  if left.isEmpty || policy == .ignore then []
  else
    let fails := policy == .fail
    let outcome : Outcome := if fails then .mismatch else .info
    [{ name := some ("Extra repeating groups with type '" ++ type ++ "'"), failed := fails
       children := left.zipIdx.map fun (m, i) => extraBlock type outcome (i + 1) m }]

/-! ## 2. Messages and groups -/

/-- The filled fields of actual messages, under the names of the nodes they belong to. -/
abbrev Saved := List (String × List (String × String))

/-- The name of the node over the groups of a message. -/
def groupsName : String := "Repeating groups"

mutual

/-- The node of a pair of messages of a group type, and what is saved of it. -/
def compareMember (c : Comparator) (keys : List (String × List String)) (type : String) :
    Message → Message → Except Breakdown (Tree × Saved)
  | ⟨fields, groups⟩, actual => do
    let expected : Message := ⟨fields, groups⟩
    let name := nodeName type expected
    match ← typeFailure name expected actual with
    | some failure => return (failure, [])
    | none =>
      let typeLeaf : Leaf :=
        { name := groupTypeField, expected := some type, actual := some type
          outcome := .matched }
      let leaves ← fieldLeaves c.skipped expected actual
      let (children, saved) ← compareGroups c keys expected.hasGroups groups actual
      let own : Saved := if c.saveGroupFields then [(name, actual.filledFields)] else []
      return ({ name := some name, fields := typeLeaf :: leaves, children }, own ++ saved)

/-- The node over the groups of a message, if it has any. -/
def compareGroups (c : Comparator) (keys : List (String × List String)) (wanted : Bool) :
    List (String × List Message) → Message → Except Breakdown (List Tree × Saved)
  | groups, actual => do
    let (nodes, saved) ← groupNodes c keys groups actual
    return (if wanted then [{ name := some groupsName, children := nodes }] else [], saved)

/-- The nodes of groups, one after the other. -/
def groupNodes (c : Comparator) (keys : List (String × List String)) :
    List (String × List Message) → Message → Except Breakdown (List Tree × Saved)
  | [], _ => return ([], [])
  | (type, members) :: rest, actual => do
    let places := (actual.members type).zipIdx.map fun (m, i) => (i, m)
    let (nodes, saved, left) ← memberNodes c keys type members places
    let (more, moreSaved) ← groupNodes c keys rest actual
    return (nodes ++ extraNode c.extraPolicy type (left.map (·.2)) ++ more, saved ++ moreSaved)

/-- The nodes of the expected messages of a group, what is saved of them, and the actual messages
    that are left. -/
def memberNodes (c : Comparator) (keys : List (String × List String)) (type : String) :
    List Message → List (Nat × Message) →
      Except Breakdown (List Tree × Saved × List (Nat × Message))
  | [], left => return ([], [], left)
  | expected :: rest, left => do
    let fields := claimFields c.skipped (keys.lookup type) expected
    match ← claim fields expected left with
    | .found place m =>
      let (node, saved) ← compareMember c keys type expected m
      let (nodes, more, left) ← memberNodes c keys type rest (left.filter (·.1 != place))
      return (node :: nodes, saved ++ more, left)
    | .missing =>
      let (nodes, more, left) ← memberNodes c keys type rest left
      return (notFound type expected none :: nodes, more, left)
    | .unreadable field cause =>
      let (nodes, more, left) ← memberNodes c keys type rest left
      return (notFound type expected (some (claimError field cause)) :: nodes, more, left)

end

/-! ## 3. A run -/

/-- Named texts as a record. -/
def textRecord (fields : List (String × String)) : Value :=
  .record (fields.map fun (n, v) => (n, .text v))

/-- The outputs of a comparison: the fields of the top message, and those of the messages of its
    groups; what was not saved is left out. -/
def outputs (fields : Option (List (String × String))) (saved : Saved) :
    List (Value × Value) :=
  let top := (fields.map fun fs => (Value.text "fields", textRecord fs)).toList
  let inner := if saved.isEmpty then [] else
    [(Value.text "sub_fields",
      Value.record ((Entries.ofList saved).map fun (n, fs) => (n, textRecord fs)))]
  top ++ inner

/-- Compares two messages; the key fields of groups are those of the comparator unless others are
    given. -/
def compare (c : Comparator) (expected actual : Message)
    (keys : Option (List (String × List String)) := none) : Except Breakdown Tree := do
  let name := "Message check result"
  match ← typeFailure name expected actual with
  | some failure => return failure
  | none =>
    let leaves ← fieldLeaves c.skipped expected actual
    let (children, saved) ← compareGroups c (keys.getD c.groupKeyFields) expected.hasGroups
      expected.groups actual
    let fields := if c.saveFields then some actual.filledFields else none
    return { name := some name, fields := leaves, children, outputs := outputs fields saved }

/-- The operation that the records of a comparison belong to. -/
def operation : String := "compare_messages"

def runContext : List (String × Detail) := [("function", .text "StructuralComparator.compare")]

/-- The records of a comparison. -/
def runRecords (expected : Message) (result : Except Breakdown Tree) : List Record :=
  started operation runContext :: match result with
  | .error b => [failed operation b.kindName b.message runContext]
  | .ok t => [
    { level := Level.info.name, message := "Message comparison finished"
      operation := some operation
      context := [("success", .verbatim (.bool t.success)),
        ("groups", .verbatim (.texts expected.groupTypes))] },
    completed operation (runContext ++ [("success", .verbatim (.bool t.success)),
      ("has_errors", .verbatim (.bool t.hasErrors))])]

end Reconcile.Message
