import Reconcile.Diff.Leaf

/-!
# Diff trees

The outcome of a comparison: a node holds leaves, further nodes, or both. Whether a node succeeds
is derived: it fails when it was marked as failed, or when one of its leaves or nodes fails.
-/

namespace Reconcile.Diff

open Reconcile.Document

/-- A node of the outcome of a comparison. -/
structure Tree where
  name : Option String := none
  comment : Option String := none
  fields : List Leaf := []
  children : List Tree := []
  failed : Bool := false
  outputs : List (Value × Value) := []
  deriving Inhabited

namespace Tree

/-- A node that failed for the reason in its comment. -/
def failure (comment : String) (name : Option String := none) : Tree :=
  { name, comment := some comment, failed := true }

def addField (t : Tree) (l : Leaf) : Tree := { t with fields := t.fields ++ [l] }

def addChild (t : Tree) (c : Tree) : Tree := { t with children := t.children ++ [c] }

mutual

/-- Whether a comparison succeeded. -/
def success : Tree → Bool
  | ⟨_, _, fields, children, failed, _⟩ =>
    !failed && fields.all Leaf.passes && allSucceed children

def allSucceed : List Tree → Bool
  | [] => true
  | c :: rest => success c && allSucceed rest

end

theorem allSucceed_eq : ∀ ts : List Tree, allSucceed ts = ts.all success
  | [] => rfl
  | c :: rest => by rw [allSucceed, allSucceed_eq rest, List.all_cons]

/-- A node succeeds when it was not marked, and all its leaves and nodes succeed. -/
theorem success_eq (t : Tree) :
    t.success = (!t.failed && t.fields.all Leaf.passes && t.children.all success) := by
  obtain ⟨name, comment, fields, children, failed, outputs⟩ := t
  rw [success, allSucceed_eq]

/-- The children of a node that succeeds do so too. -/
theorem success_of_mem_children {t n : Tree} (h : t.success = true) (hn : n ∈ t.children) :
    n.success = true := by
  rw [success_eq, Bool.and_eq_true] at h
  exact List.all_eq_true.mp h.2 n hn

mutual

/-- Whether some leaf of the tree could not be evaluated. -/
def hasErrors : Tree → Bool
  | ⟨_, _, fields, children, _, _⟩ => fields.any Leaf.isError || someHasErrors children

def someHasErrors : List Tree → Bool
  | [] => false
  | c :: rest => hasErrors c || someHasErrors rest

end

theorem someHasErrors_eq : ∀ ts : List Tree, someHasErrors ts = ts.any hasErrors
  | [] => rfl
  | c :: rest => by rw [someHasErrors, someHasErrors_eq rest, List.any_cons]

/-- A node has errors when one of its leaves is an error or one of its nodes has some. -/
theorem hasErrors_eq (t : Tree) :
    t.hasErrors = (t.fields.any Leaf.isError || t.children.any hasErrors) := by
  obtain ⟨name, comment, fields, children, failed, outputs⟩ := t
  rw [hasErrors, someHasErrors_eq]

mutual

/-- All leaves of the tree: those of a node, then those of its children. -/
def leaves : Tree → List Leaf
  | ⟨_, _, fields, children, _, _⟩ => fields ++ leavesOf children

def leavesOf : List Tree → List Leaf
  | [] => []
  | c :: rest => leaves c ++ leavesOf rest

end

/-- The place of the first child with a name. -/
def childIndex? (t : Tree) (name : Option String) : Option Nat :=
  t.children.findIdx? (·.name == name)

/-- The first child with a name. -/
def child? (t : Tree) (name : String) : Option Tree := t.children.find? (·.name == some name)

/-- A record with its outputs, when there are some. -/
def withOutputs (fields : List (String × Value)) (outputs : List (Value × Value)) : Value :=
  .record (fields ++ if outputs.isEmpty then [] else [("outputs", .map outputs)])

mutual

/-- The tree as nested records. -/
def toValue : Tree → Value
  | ⟨name, comment, fields, children, failed, outputs⟩ =>
    withOutputs [("name", .ofOption name),
      ("success", .bool (!failed && fields.all Leaf.passes && allSucceed children)),
      ("comment", .ofOption comment), ("fields", .list (fields.map Leaf.toValue)),
      ("children", .list (valuesOf children))] outputs

def valuesOf : List Tree → List Value
  | [] => []
  | c :: rest => toValue c :: valuesOf rest

end

end Tree

end Reconcile.Diff
