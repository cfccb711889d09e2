import Reconcile.Message.Comparison

/-!
# Nodes for extra messages

Actual messages that nobody claimed have a node of their own beside the blocks of a group. It bears
neither a comment nor leaves, and so it is told apart from a block, which may bear any name.

* `isExtras`, `extraNode_isExtras`, `extraNode_success`: what a node for extra messages is, and when
  it fails;
* `withoutExtras`: a tree without such nodes, at any depth;
* `Contains`, **`success_of_contains`**: a node that stands somewhere in a tree that succeeds does so
  too.
-/

namespace Reconcile.Message

open Reconcile.Diff Reconcile.Expectation

/-! ## 1. The nodes -/

/-- What the name of a node for extra messages begins with. -/
def extrasHead : String := "Extra repeating groups with type '"

/-- Whether a node is one for extra messages. A block of a message has a leaf with its type or says
    in a comment what is wrong, while its name is the source of the message, which may be any. -/
def isExtras (t : Tree) : Bool :=
  t.comment.isNone && t.fields.isEmpty &&
    t.name.any fun name => extrasHead.toList.isPrefixOf name.toList

theorem isExtras_of_comment {t : Tree} {comment : String} (h : t.comment = some comment) :
    isExtras t = false := by
  rw [isExtras, h]
  rfl

theorem isExtras_of_fields {t : Tree} {leaf : Leaf} {leaves : List Leaf}
    (h : t.fields = leaf :: leaves) : isExtras t = false := by
  rw [isExtras, h, List.isEmpty_cons, Bool.and_false, Bool.false_and]

theorem isExtras_of_name {t : Tree} {name : String} (h : t.name = some name)
    (hname : extrasHead.toList.isPrefixOf name.toList = false) : isExtras t = false := by
  rw [isExtras, h, Option.any_some, hname, Bool.and_false]

variable (policy : ExtraPolicy) (type : String)

/-- The nodes for messages that nobody claimed are such nodes. -/
theorem extraNode_isExtras (left : List Message) :
    ∀ node ∈ extraNode policy type left, isExtras node = true := by
  intro node hnode
  unfold extraNode at hnode
  split at hnode
  · cases hnode
  · obtain rfl := List.mem_singleton.mp hnode
    have hname : extrasHead.toList.isPrefixOf
        (extrasHead ++ type ++ "'").toList = true := by
      rw [List.isPrefixOf_iff_prefix, String.append_assoc, String.toList_append]
      exact List.prefix_append _ _
    exact hname

/-- What is reported for information only does not fail. -/
theorem extraBlock_success (number : Nat) (m : Message) :
    (extraBlock type .info number m).success = true := by
  rw [Tree.success_eq, extraBlock]
  refine Bool.and_eq_true_iff.mpr ⟨Bool.and_eq_true_iff.mpr ⟨rfl, ?_⟩, rfl⟩
  rw [List.all_map]
  exact List.all_eq_true.mpr fun _ _ => rfl

/-- **A node for extra messages fails** exactly when the policy says so. -/
theorem extraNode_success (left : List Message) :
    (extraNode policy type left).all Tree.success = (left.isEmpty || policy != .fail) := by
  unfold extraNode
  cases hleft : left.isEmpty with
  | true => rfl
  | false =>
    cases policy with
    | ignore => rfl
    | fail =>
      show (Tree.success _ && true) = false
      rw [Tree.success_eq]
      rfl
    | info =>
      show (Tree.success _ && true) = true
      rw [Bool.and_true, Tree.success_eq]
      refine Bool.and_eq_true_iff.mpr ⟨rfl, ?_⟩
      rw [List.all_map]
      exact List.all_eq_true.mpr fun _ _ => extraBlock_success type _ _

/-! ## 2. Blocks -/

theorem notFound_isExtras (expected : Message) (error : Option String) :
    isExtras (notFound type expected error) = false := by
  cases error with
  | none => exact isExtras_of_comment rfl
  | some e => exact isExtras_of_comment rfl

theorem notFound_success (expected : Message) (error : Option String) :
    (notFound type expected error).success = false := by
  rw [Tree.success_eq]
  cases error with
  | none => rfl
  | some e => rfl

/-! ## 3. Trees without them -/

mutual

/-- The tree without nodes for extra messages, at any depth. -/
def withoutExtras : Tree → Tree
  | ⟨name, comment, fields, children, failed, outputs⟩ =>
    ⟨name, comment, fields, withoutExtrasAll children, failed, outputs⟩

def withoutExtrasAll : List Tree → List Tree
  | [] => []
  | t :: rest => if isExtras t then withoutExtrasAll rest else withoutExtras t :: withoutExtrasAll rest

end

theorem withoutExtrasAll_eq : ∀ ts : List Tree,
    withoutExtrasAll ts = (ts.filter fun t => !isExtras t).map withoutExtras
  | [] => rfl
  | t :: rest => by
    rw [withoutExtrasAll, withoutExtrasAll_eq rest]
    cases h : isExtras t with
    | true => rw [if_pos rfl, List.filter_cons_of_neg (by rw [h]; exact Bool.false_ne_true)]
    | false => rw [if_neg Bool.false_ne_true, List.filter_cons_of_pos (by rw [h]; rfl), List.map_cons]

/-- Without the nodes for extra messages a tree has the children that are none, each without them. -/
theorem withoutExtras_eq (t : Tree) : withoutExtras t =
    { t with children := (t.children.filter fun n => !isExtras n).map withoutExtras } := by
  obtain ⟨name, comment, fields, children, failed, outputs⟩ := t
  rw [withoutExtras, withoutExtrasAll_eq]

/-! ## 4. Nodes of a tree -/

/-- A node stands in a tree, at any depth. -/
inductive Contains : Tree → Tree → Prop where
  | self (t : Tree) : Contains t t
  | child {t n node : Tree} (h : n ∈ t.children) (inner : Contains n node) : Contains t node

/-- **A node of a tree that succeeds** succeeds. -/
theorem success_of_contains {t node : Tree} (h : Contains t node) (hsuccess : t.success = true) :
    node.success = true := by
  induction h with
  | self t => exact hsuccess
  | child h _ ih => exact ih (Tree.success_of_mem_children hsuccess h)

end Reconcile.Message
