import Mathlib.Data.List.Basic
import Reconcile.Diff.Tree

/-!
# Verdicts and leaves

A diff tree is walked in four ways: for whether it succeeded, for whether it has errors, for its
leaves, and for its nested records. All four see the same nodes and the same leaves.

* `Tree.induction`, `nodes`: a tree by what holds of its children, and all its nodes, each before
  those below it;
* `success_iff`, `hasErrors_iff`: the verdicts, from the nodes and the leaves;
* `records`, `records_toValue`: the nested records as they are read back from a document, one for
  each node;
* `leafOf?_toValue`, `fieldsOf_records`: the leaves that the records hold;
* **`verdicts_agree`**: all of this for every tree.
-/

namespace Reconcile.Diff

open Reconcile.Document

namespace Tree

/-! ## 1. Nodes -/

/-- What holds of a tree as soon as it holds of its children holds of all trees. -/
theorem induction {motive : Tree → Prop}
    (node : ∀ t, (∀ c ∈ t.children, motive c) → motive t) (t : Tree) : motive t :=
  node t fun c _ => induction node c
termination_by sizeOf t
decreasing_by
  obtain ⟨name, comment, fields, children, failed, outputs⟩ := t
  have hsize : sizeOf c < sizeOf children := List.sizeOf_lt_of_mem ‹_›
  simp only [mk.sizeOf_spec]
  omega

mutual

/-- All nodes of a tree: the tree itself, then those of its children. -/
def nodes : Tree → List Tree
  | ⟨name, comment, fields, children, failed, outputs⟩ =>
    ⟨name, comment, fields, children, failed, outputs⟩ :: nodesOf children

def nodesOf : List Tree → List Tree
  | [] => []
  | c :: rest => nodes c ++ nodesOf rest

end

theorem nodesOf_eq : ∀ ts : List Tree, nodesOf ts = ts.flatMap nodes
  | [] => rfl
  | c :: rest => by rw [nodesOf, nodesOf_eq rest, List.flatMap_cons]

theorem nodes_eq (t : Tree) : t.nodes = t :: t.children.flatMap nodes := by
  obtain ⟨name, comment, fields, children, failed, outputs⟩ := t
  rw [nodes, nodesOf_eq]

theorem leavesOf_eq : ∀ ts : List Tree, leavesOf ts = ts.flatMap leaves
  | [] => rfl
  | c :: rest => by rw [leavesOf, leavesOf_eq rest, List.flatMap_cons]

theorem leaves_eq (t : Tree) : t.leaves = t.fields ++ t.children.flatMap leaves := by
  obtain ⟨name, comment, fields, children, failed, outputs⟩ := t
  rw [leaves, leavesOf_eq]

/-- A node of a tree is the tree itself or a node of one of its children. -/
theorem mem_nodes {t n : Tree} : n ∈ t.nodes ↔ n = t ∨ ∃ c ∈ t.children, n ∈ c.nodes := by
  rw [nodes_eq, List.mem_cons, List.mem_flatMap]

/-- A leaf of a tree is one of its own or a leaf of one of its children. -/
theorem mem_leaves {t : Tree} {l : Leaf} :
    l ∈ t.leaves ↔ l ∈ t.fields ∨ ∃ c ∈ t.children, l ∈ c.leaves := by
  rw [leaves_eq, List.mem_append, List.mem_flatMap]

/-- The leaves of a tree are those of its nodes, in their order. -/
theorem leaves_eq_flatMap (t : Tree) : t.leaves = t.nodes.flatMap (·.fields) := by
  induction t using induction with
  | node t ih =>
    have hchildren : t.children.flatMap leaves =
        t.children.flatMap fun c => c.nodes.flatMap (·.fields) :=
      List.flatMap_congr ih
    rw [leaves_eq, nodes_eq, List.flatMap_cons, List.flatMap_assoc, hchildren]

/-! ## 2. Verdicts -/

/-- A tree succeeds when none of its nodes was marked as failed and all of its leaves pass. -/
theorem success_iff (t : Tree) :
    t.success = true ↔ (∀ n ∈ t.nodes, n.failed = false) ∧ ∀ l ∈ t.leaves, l.passes = true := by
  induction t using induction with
  | node t ih =>
    simp only [success_eq t, Bool.and_eq_true, Bool.not_eq_true', List.all_eq_true, @mem_nodes t,
      @mem_leaves t]
    constructor
    · rintro ⟨⟨hfailed, hfields⟩, hchildren⟩
      refine ⟨?_, ?_⟩
      · rintro n (rfl | ⟨c, hc, hn⟩)
        · exact hfailed
        · exact ((ih c hc).mp (hchildren c hc)).1 n hn
      · rintro l (hl | ⟨c, hc, hl⟩)
        · exact hfields l hl
        · exact ((ih c hc).mp (hchildren c hc)).2 l hl
    · rintro ⟨hnodes, hleaves⟩
      refine ⟨⟨hnodes t (.inl rfl), fun l hl => hleaves l (.inl hl)⟩, fun c hc => ?_⟩
      exact (ih c hc).mpr
        ⟨fun n hn => hnodes n (.inr ⟨c, hc, hn⟩), fun l hl => hleaves l (.inr ⟨c, hc, hl⟩)⟩

/-- A tree has errors when one of its leaves is one. -/
theorem hasErrors_iff (t : Tree) : t.hasErrors = true ↔ ∃ l ∈ t.leaves, l.isError = true := by
  induction t using induction with
  | node t ih =>
    simp only [hasErrors_eq t, Bool.or_eq_true, List.any_eq_true, @mem_leaves t]
    constructor
    · rintro (⟨l, hl, herror⟩ | ⟨c, hc, herrors⟩)
      · exact ⟨l, .inl hl, herror⟩
      · obtain ⟨l, hl, herror⟩ := (ih c hc).mp herrors
        exact ⟨l, .inr ⟨c, hc, hl⟩, herror⟩
    · rintro ⟨l, hl | ⟨c, hc, hl⟩, herror⟩
      · exact .inl ⟨l, hl, herror⟩
      · exact .inr ⟨c, hc, (ih c hc).mpr ⟨l, hl, herror⟩⟩

/-- A tree fails when one of its nodes was marked as failed, or one of its leaves does not pass. -/
theorem not_success_iff (t : Tree) : t.success = false ↔
    (∃ n ∈ t.nodes, n.failed = true) ∨ ∃ l ∈ t.leaves, l.passes = false := by
  rw [← Bool.not_eq_true, success_iff, not_and_or]
  simp only [not_forall, exists_prop, Bool.not_eq_false, Bool.not_eq_true]

end Tree

namespace Outcome

/-- What passes either matched or is for information only. -/
theorem passes_iff (o : Outcome) : o.passes = true ↔ o = .matched ∨ o = .info := by
  rw [passes, Bool.or_eq_true, beq_iff_eq, beq_iff_eq]

/-- What does not pass is a mismatch or an error. -/
theorem not_passes_iff (o : Outcome) : o.passes = false ↔ o = .mismatch ∨ o = .error := by
  cases o <;> decide

/-- An outcome is found again by its name. -/
theorem ofName?_name (o : Outcome) : ofName? o.name = some o := by
  cases o <;> decide

end Outcome

/-! ## 3. Records -/

/-- An optional text, from a document. -/
def optional? : Value → Option (Option String)
  | .null => some none
  | .text s => some (some s)
  | _ => none

/-- A leaf, from its record. -/
def leafOf? (v : Value) : Option Leaf := do
  let .text name ← v.get? "name" | none
  let expected ← optional? (← v.get? "expected")
  let actual ← optional? (← v.get? "actual")
  let .text outcome ← v.get? "outcome" | none
  let outcome ← Outcome.ofName? outcome
  let error ← optional? (← v.get? "error")
  return ⟨name, expected, actual, outcome, error⟩

/-- The records of the leaves that the record of a node holds itself. -/
def fieldsOf (v : Value) : List Value := ((v.get? "fields").map Value.itemsOf).getD []

mutual

/-- The record of a node, then those of the nodes below it. -/
def records : Value → List Value
  | .map entries => .map entries :: recordsBelow entries
  | _ => []

/-- The records under the entry for the children. -/
def recordsBelow : List (Value × Value) → List Value
  | [] => []
  | (key, v) :: rest =>
    if Value.sameScalar key (.text "children") then recordsIn v else recordsBelow rest

def recordsIn : Value → List Value
  | .list items => recordsOf items
  | _ => []

def recordsOf : List Value → List Value
  | [] => []
  | v :: rest => records v ++ recordsOf rest

end

theorem optional?_ofOption (o : Option String) : optional? (.ofOption o) = some o := by
  cases o with
  | none => rfl
  | some s => rfl

/-- A leaf is what is read from its record. -/
theorem leafOf?_toValue (l : Leaf) : leafOf? l.toValue = some l := by
  obtain ⟨name, expected, actual, outcome, error⟩ := l
  show (do
    let expected ← optional? (.ofOption expected)
    let actual ← optional? (.ofOption actual)
    let outcome ← Outcome.ofName? outcome.name
    let error ← optional? (.ofOption error)
    return (⟨name, expected, actual, outcome, error⟩ : Leaf)) = _
  rw [optional?_ofOption, optional?_ofOption, optional?_ofOption, Outcome.ofName?_name]
  rfl

/-- The leaves of a list are read from their records. -/
theorem filterMap_leafOf? (ls : List Leaf) : (ls.map Leaf.toValue).filterMap leafOf? = ls := by
  rw [List.filterMap_map]
  have hread : leafOf? ∘ Leaf.toValue = some := funext leafOf?_toValue
  rw [hread, List.filterMap_some]

namespace Tree

theorem valuesOf_eq : ∀ ts : List Tree, valuesOf ts = ts.map toValue
  | [] => rfl
  | c :: rest => by rw [valuesOf, valuesOf_eq rest, List.map_cons]

/-- The record of a tree: its verdict, its leaves, and the records of its children. -/
theorem toValue_eq (t : Tree) :
    t.toValue = withOutputs [("name", .ofOption t.name), ("success", .bool t.success),
      ("comment", .ofOption t.comment), ("fields", .list (t.fields.map Leaf.toValue)),
      ("children", .list (t.children.map toValue))] t.outputs := by
  obtain ⟨name, comment, fields, children, failed, outputs⟩ := t
  rw [toValue, valuesOf_eq, success]

/-- The verdict in a record is that of the tree. -/
theorem get?_success (t : Tree) : t.toValue.get? "success" = some (.bool t.success) := by
  rw [toValue_eq]
  rfl

/-- The leaves that a record holds are the tree's own. -/
theorem fieldsOf_toValue (t : Tree) : fieldsOf t.toValue = t.fields.map Leaf.toValue := by
  rw [toValue_eq]
  rfl

theorem recordsOf_eq : ∀ vs : List Value, recordsOf vs = vs.flatMap records
  | [] => rfl
  | v :: rest => by rw [recordsOf, recordsOf_eq rest, List.flatMap_cons]

/-- A record stands before those of the children. -/
theorem records_toValue_eq (t : Tree) :
    records t.toValue = t.toValue :: t.children.flatMap fun c => records c.toValue := by
  have hbelow : records t.toValue = t.toValue :: recordsOf (t.children.map toValue) := by
    rw [toValue_eq]
    rfl
  rw [hbelow, recordsOf_eq, List.flatMap_map]

/-- The records below that of a tree are those of its nodes, in their order. -/
theorem records_toValue (t : Tree) : records t.toValue = t.nodes.map toValue := by
  induction t using induction with
  | node t ih =>
    have hchildren : (t.children.flatMap fun c => records c.toValue) =
        t.children.flatMap fun c => c.nodes.map toValue :=
      List.flatMap_congr ih
    rw [records_toValue_eq, nodes_eq, List.map_cons, List.map_flatMap, hchildren]

/-- The leaves of the records are those of the tree, in their order. -/
theorem fieldsOf_records (t : Tree) :
    (records t.toValue).flatMap fieldsOf = t.leaves.map Leaf.toValue := by
  have hfields : (fun n : Tree => fieldsOf n.toValue) = fun n => n.fields.map Leaf.toValue :=
    funext fieldsOf_toValue
  rw [records_toValue, leaves_eq_flatMap, List.flatMap_map, List.map_flatMap, hfields]

end Tree

/-! ## 4. All walks agree -/

/-- What the walks through a tree agree on. -/
structure VerdictsAgree (t : Tree) : Prop where
  /-- it succeeds when no node was marked as failed and every leaf matched or is for information -/
  success_iff : t.success = true ↔
    (∀ n ∈ t.nodes, n.failed = false) ∧ ∀ l ∈ t.leaves, l.outcome = .matched ∨ l.outcome = .info
  /-- it has errors when some leaf is one -/
  hasErrors_iff : t.hasErrors = true ↔ ∃ l ∈ t.leaves, l.outcome = .error
  /-- a tree with errors does not succeed -/
  not_success : t.hasErrors = true → t.success = false
  /-- there is one record for each node -/
  records : records t.toValue = t.nodes.map Tree.toValue
  /-- the verdict in the record of a node is about what is at and below that node -/
  record_success : ∀ n ∈ t.nodes, ∃ b, n.toValue.get? "success" = some (.bool b) ∧
    (b = false ↔ (∃ m ∈ n.nodes, m.failed = true) ∨
      ∃ l ∈ n.leaves, l.outcome = .mismatch ∨ l.outcome = .error)
  /-- the records hold the leaves of the tree -/
  record_fields : (Diff.records t.toValue).flatMap fieldsOf = t.leaves.map Leaf.toValue
  /-- each leaf can be read from its record -/
  leaves_read : ((Diff.records t.toValue).flatMap fieldsOf).filterMap leafOf? = t.leaves

/-- **The walks through a tree agree**: its verdicts and those in all of its records are told by
    its nodes and its leaves, and the records hold these leaves. -/
theorem verdicts_agree (t : Tree) : VerdictsAgree t where
  success_iff := by
    simp only [Tree.success_iff, Leaf.passes, Outcome.passes_iff]
  hasErrors_iff := by
    simp only [Tree.hasErrors_iff, Leaf.isError, beq_iff_eq]
  not_success := by
    intro herrors
    obtain ⟨l, hl, herror⟩ := t.hasErrors_iff.mp herrors
    have hpasses : l.passes = false := by
      rw [Leaf.passes, beq_iff_eq.mp herror]
      rfl
    exact t.not_success_iff.mpr (.inr ⟨l, hl, hpasses⟩)
  records := t.records_toValue
  record_success := by
    intro n _
    refine ⟨n.success, n.get?_success, ?_⟩
    simp only [Tree.not_success_iff, Leaf.passes, Outcome.not_passes_iff]
  record_fields := t.fieldsOf_records
  leaves_read := by
    rw [t.fieldsOf_records]
    exact filterMap_leafOf? t.leaves

end Reconcile.Diff
