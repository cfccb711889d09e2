import Mathlib.Data.List.Nodup
import Reconcile.Proofs.Expectation.Literals
import Reconcile.Proofs.Message.ComparedPairs
import Reconcile.Proofs.Message.ExtraNodes

/-!
# A message matches itself

A message without expressions that is compared to itself succeeds, and nothing in it is missing or
extra, at any depth. Many actual messages of a group may match an expected one; but when its turn
comes those before it are gone, and so it claims itself.

* `AllLiteral`: the values of a message and of the messages of its groups are absent or literals;
* `allFieldsMatch_self`, `fieldLeaves_self`, `typeFailure_self`: the parts of a message match
  themselves;
* `Complete`: a report in which everything succeeds and nothing is extra;
* `memberNodes_self`: the turns of a group, in which the first message that is left is claimed;
* **`message_matches_itself`**: the report of a message that is compared to itself.
-/

namespace Reconcile.Message

open Reconcile.Diff Reconcile.Expectation

/-! ## 1. What is asked -/

/-- The values of a message, and of all messages of its groups, are absent or literals. -/
inductive AllLiteral : Message → Prop where
  | intro {fields : List (String × Option String)} {groups : List (String × List Message)}
      (values : ∀ f ∈ fields, isExpression f.2 = false)
      (members : ∀ g ∈ groups, ∀ m ∈ g.2, AllLiteral m) : AllLiteral ⟨fields, groups⟩

variable {m : Message}

theorem AllLiteral.field (h : AllLiteral m) (name : String) : isExpression (m.field name) = false := by
  obtain ⟨values, _⟩ := h
  unfold Message.field
  cases hlookup : List.lookup name _ with
  | none => rfl
  | some value => exact values _ (Entries.mem_of_lookup hlookup)

theorem AllLiteral.of_mem (h : AllLiteral m) {g : String × List Message} (hg : g ∈ m.groups)
    {e : Message} (he : e ∈ g.2) : AllLiteral e := by
  obtain ⟨_, members⟩ := h
  exact members g hg e he

/-! ## 2. Fields -/

theorem typeFailure_self (h : AllLiteral m) (name : String) : typeFailure name m m = .ok none := by
  unfold typeFailure
  dsimp only
  rw [accepts_self (h.field typeField)]
  split <;> rfl

/-- Every field of a message passes the check against itself. -/
theorem fieldLeaves_self (h : AllLiteral m) (skipped : List String) :
    ∃ leaves, fieldLeaves skipped m m = .ok leaves ∧ leaves.all Leaf.passes = true := by
  have hcheck : ∀ name, ∃ leaf, check name (m.field name) (m.field name) (some .nullOrEmpty) = .ok leaf ∧
      leaf.passes = true := fun name => by
    unfold check
    split
    · exact ⟨_, rfl, rfl⟩
    · rw [accepts_self (h.field name)]
      exact ⟨_, rfl, rfl⟩
  obtain ⟨leaves, hleaves⟩ := mapM_returns_iff.mpr fun name
    (_ : name ∈ m.fieldNames.filter fun n => !skipped.contains n) =>
      (hcheck name).imp fun _ hleaf => hleaf.1
  refine ⟨leaves, hleaves, ?_⟩
  rw [all_of_mapM_ok Leaf.passes hleaves]
  refine List.all_eq_true.mpr fun name _ => ?_
  obtain ⟨leaf, hleaf, hpasses⟩ := hcheck name
  rw [hleaf]
  exact hpasses

/-- A message matches itself in all fields that it may be claimed by. -/
theorem allFieldsMatch_self (h : AllLiteral m) : ∀ fields : List String,
    allFieldsMatch m m fields = .ok true
  | [] => rfl
  | name :: rest => by
    have hname : fieldMatches m m name = .ok true := by
      unfold fieldMatches
      dsimp only
      rw [accepts_self (h.field name)]
      split <;> rfl
    rw [allFieldsMatch, hname]
    exact allFieldsMatch_self h rest

/-! ## 3. Groups -/

/-- A report in which every part succeeds, and no message is extra. -/
structure Complete (t : Tree) : Prop where
  success : t.success = true
  extras : ∀ node, Contains t node → isExtras node = false

/-- A node is complete when its leaves pass and its children are complete. -/
theorem Complete.node {t : Tree} (hextras : isExtras t = false) (hfailed : t.failed = false)
    (hfields : t.fields.all Leaf.passes = true) (hchildren : ∀ n ∈ t.children, Complete n) :
    Complete t where
  success := by
    rw [Tree.success_eq, hfailed, hfields]
    exact List.all_eq_true.mpr fun n hn => (hchildren n hn).success
  extras := by
    intro node hnode
    cases hnode with
    | self => exact hextras
    | child hn inner => exact (hchildren _ hn).extras node inner

variable {c : Comparator} {keys : List (String × List String)} {type : String}

/-- **The turns of a group compared to itself**: the messages are left from one place on, and the
    first of them is the one whose turn it is. -/
theorem memberNodes_self : ∀ (members : List Message) (place : Nat), (∀ e ∈ members, AllLiteral e) →
    (∀ e ∈ members, ∃ block saved, compareMember c keys type e e = .ok (block, saved) ∧
      Complete block) →
    ∃ blocks saved, memberNodes c keys type members
        ((members.zipIdx place).map fun (e, j) => (j, e)) = .ok (blocks, saved, []) ∧
      ∀ block ∈ blocks, Complete block
  | [], place, _, _ => ⟨[], [], by rw [memberNodes]; rfl, fun _ h => absurd h List.not_mem_nil⟩
  | e :: rest, place, hliteral, hmembers => by
    obtain ⟨he, hrest⟩ := List.forall_mem_cons.mp hliteral
    obtain ⟨⟨block, own, hblock, hcomplete⟩, hmore⟩ := List.forall_mem_cons.mp hmembers
    obtain ⟨blocks, saved, hblocks, hall⟩ := memberNodes_self rest (place + 1) hrest hmore
    have hclaim : claim (keyFields c keys type e) e
        ((place, e) :: (rest.zipIdx (place + 1)).map fun (e, j) => (j, e)) =
          .ok (.found place e) := by
      rw [claim, allFieldsMatch_self he]
    -- all others stand at later places
    have hleft : ((place, e) :: (rest.zipIdx (place + 1)).map fun (e, j) => (j, e)).filter
        (·.1 != place) = (rest.zipIdx (place + 1)).map fun (e, j) => (j, e) := by
      rw [List.filter_cons_of_neg (by simp), List.filter_eq_self]
      intro q hq
      obtain ⟨p, hp, rfl⟩ := List.mem_map.mp hq
      have hlater : place + 1 ≤ p.2 := (List.mem_zipIdx hp).1
      exact bne_iff_ne.mpr (Nat.ne_of_gt hlater)
    refine ⟨block :: blocks, own ++ saved, ?_, List.forall_mem_cons.mpr ⟨hcomplete, hall⟩⟩
    rw [List.zipIdx_cons, List.map_cons, memberNodes_cons, hclaim]
    show (compareMember c keys type e e >>= _) = _
    rw [hblock]
    show (memberNodes c keys type rest (List.filter _ _) >>= _) = _
    rw [hleft, hblocks]
    rfl

/-- All groups of a message that has the messages of the groups itself. -/
theorem groupNodes_self {actual : Message} : ∀ (groups : List (String × List Message)),
    (∀ g ∈ groups, actual.members g.1 = g.2) → (∀ g ∈ groups, ∀ e ∈ g.2, AllLiteral e) →
    (∀ g ∈ groups, ∀ e ∈ g.2, ∀ type, ∃ block saved,
      compareMember c keys type e e = .ok (block, saved) ∧ Complete block) →
    ∃ nodes saved, groupNodes c keys groups actual = .ok (nodes, saved) ∧
      ∀ node ∈ nodes, Complete node
  | [], _, _, _ => ⟨[], [], by rw [groupNodes]; rfl, fun _ h => absurd h List.not_mem_nil⟩
  | (type, members) :: rest, hactual, hliteral, hmembers => by
    obtain ⟨hsame, hactual⟩ := List.forall_mem_cons.mp hactual
    obtain ⟨hgroup, hliteral⟩ := List.forall_mem_cons.mp hliteral
    obtain ⟨hmember, hmembers⟩ := List.forall_mem_cons.mp hmembers
    obtain ⟨blocks, own, hblocks, hcomplete⟩ := memberNodes_self members 0 hgroup
      fun e he => hmember e he type
    obtain ⟨nodes, saved, hnodes, hall⟩ := groupNodes_self rest hactual hliteral hmembers
    refine ⟨blocks ++ nodes, own ++ saved, ?_, fun node hnode => ?_⟩
    · rw [groupNodes, hsame, hblocks, hnodes]
      show Except.ok (blocks ++ extraNode c.extraPolicy type [] ++ nodes, own ++ saved) = _
      rw [extraNode_silent (.inr rfl), List.append_nil]
    · exact (List.mem_append.mp hnode).elim (hcomplete node) (hall node)

theorem compareGroups_self (hm : m.WellFormed) (h : AllLiteral m)
    (hmembers : ∀ g ∈ m.groups, ∀ e ∈ g.2, ∀ type, ∃ block saved,
      compareMember c keys type e e = .ok (block, saved) ∧ Complete block) :
    ∃ children saved, compareGroups c keys m.hasGroups m.groups m = .ok (children, saved) ∧
      ∀ node ∈ children, Complete node := by
  obtain ⟨nodes, saved, hnodes, hcomplete⟩ := groupNodes_self m.groups (fun g => hm.members_eq)
    (fun g hg e => h.of_mem hg) hmembers
  refine ⟨_, saved, by rw [compareGroups, hnodes]; rfl, fun node hnode => ?_⟩
  split at hnode
  · obtain rfl := List.mem_singleton.mp hnode
    exact .node (isExtras_of_name rfl (by decide)) rfl rfl hcomplete
  · cases hnode

/-! ## 4. Messages -/

/-- A message of a group that is compared to itself has a complete block. -/
theorem compareMember_self (m : Message) : m.WellFormed → AllLiteral m → ∀ type : String,
    ∃ block saved, compareMember c keys type m m = .ok (block, saved) ∧ Complete block := by
  induction m using Message.induction with
  | step m ih =>
    intro hm h type
    have hmembers : ∀ g ∈ m.groups, ∀ e ∈ g.2, ∀ type, ∃ block saved,
        compareMember c keys type e e = .ok (block, saved) ∧ Complete block :=
      fun g hg e he => ih g hg e he (hm.of_mem hg he) (h.of_mem hg he)
    obtain ⟨leaves, hleaves, hpasses⟩ := fieldLeaves_self h c.skipped
    obtain ⟨children, saved, hgroups, hcomplete⟩ := compareGroups_self hm h hmembers
    have hfailure := typeFailure_self h (nodeName type m)
    obtain ⟨fields, groups⟩ := m
    rw [compareMember, hfailure, hleaves]
    show ∃ block saved, (compareGroups c keys (Message.hasGroups ⟨fields, groups⟩) groups
      ⟨fields, groups⟩ >>= _) = .ok (block, saved) ∧ Complete block
    rw [hgroups]
    refine ⟨_, _, rfl, .node (isExtras_of_fields rfl) rfl ?_ hcomplete⟩
    rw [List.all_cons, hpasses]
    rfl

/-- **A message matches itself**, whatever the service fields are, the policy, the keys of its groups
    and what is saved: where no name and no group type comes twice in it, and all values are absent or
    literals, the comparison returns and succeeds, and no node of its report, at any depth, stands for
    a message that was not found or for extra messages. -/
theorem message_matches_itself (c : Comparator) (given : Option (List (String × List String)))
    (hm : m.WellFormed) (h : AllLiteral m) :
    ∃ t, compare c m m given = .ok t ∧ t.success = true ∧ ∀ node, Contains t node →
      (∀ type expected error, node ≠ notFound type expected error) ∧
      ∀ policy type left, node ∉ extraNode policy type left := by
  have hmembers : ∀ g ∈ m.groups, ∀ e ∈ g.2, ∀ type, ∃ block saved,
      compareMember c (given.getD c.groupKeyFields) type e e = .ok (block, saved) ∧ Complete block :=
    fun g hg e he => compareMember_self e (hm.of_mem hg he) (h.of_mem hg he)
  obtain ⟨leaves, hleaves, hpasses⟩ := fieldLeaves_self h c.skipped
  obtain ⟨children, saved, hgroups, hcomplete⟩ := compareGroups_self hm h hmembers
  have ht : Complete ⟨some "Message check result", none, leaves, children, false,
      outputs (if c.saveFields then some m.filledFields else none) saved⟩ :=
    .node (isExtras_of_name rfl (by decide)) rfl hpasses hcomplete
  refine ⟨_, ?_, ht.success, fun node hnode => ⟨?_, ?_⟩⟩
  · rw [compare, typeFailure_self h, hleaves]
    show (compareGroups _ _ _ _ _ >>= _) = _
    rw [hgroups]
    rfl
  · rintro type expected error rfl
    have hsuccess := success_of_contains hnode ht.success
    rw [notFound_success] at hsuccess
    cases hsuccess
  · intro policy type left hmem
    have hextras := ht.extras node hnode
    rw [extraNode_isExtras policy type left node hmem] at hextras
    cases hextras

/-- Two legs with one key, and parts of the same account: messages that match several ones. -/
theorem message_matches_itself_legs :
    let c : Comparator := { extraPolicy := .fail, groupKeyFields := [("Leg", ["LegId"])] }
    let m : Message := ⟨[("Side", some "buy"), ("Text", none)],
      [("Leg", [legOf "1" "10" ["A", "A"], legOf "1" "20" ["B"]])]⟩
    ∃ t, compare c m m none = .ok t ∧ t.success = true ∧ ∀ node, Contains t node →
      (∀ type expected error, node ≠ notFound type expected error) ∧
      ∀ policy type left, node ∉ extraNode policy type left := by
  intro c m
  have hleg : ∀ (amount : String) (accounts : List String), isExpression (some amount) = false →
      (∀ a ∈ accounts, isExpression (some a) = false) →
      (legOf "1" amount accounts).WellFormed ∧ AllLiteral (legOf "1" amount accounts) := by
    intro amount accounts hamount haccounts
    constructor
    · refine .intro (show ["LegId", "Amount"].Nodup by decide) (List.nodup_singleton "Part")
        (List.forall_mem_singleton.mpr fun part hpart => ?_)
      obtain ⟨a, _, rfl⟩ := List.mem_map.mp hpart
      exact .intro (List.nodup_singleton "Account") List.nodup_nil nofun
    · have hkey : isExpression (some "1") = false := by decide +kernel
      refine .intro (List.forall_mem_cons.mpr ⟨hkey, List.forall_mem_singleton.mpr hamount⟩)
        (List.forall_mem_singleton.mpr fun part hpart => ?_)
      obtain ⟨a, ha, rfl⟩ := List.mem_map.mp hpart
      exact .intro (List.forall_mem_singleton.mpr (haccounts a ha)) nofun
  have hlegs : ∀ e ∈ [legOf "1" "10" ["A", "A"], legOf "1" "20" ["B"]],
      e.WellFormed ∧ AllLiteral e := by
    refine List.forall_mem_cons.mpr ⟨?_, List.forall_mem_singleton.mpr ?_⟩
    · exact hleg "10" ["A", "A"] (by decide +kernel) (by decide +kernel)
    · exact hleg "20" ["B"] (by decide +kernel) (by decide +kernel)
  refine message_matches_itself c none ?_ ?_
  · exact .intro (show ["Side", "Text"].Nodup by decide) (List.nodup_singleton "Leg")
      (List.forall_mem_singleton.mpr fun e he => (hlegs e he).1)
  · refine .intro ?_ (List.forall_mem_singleton.mpr fun e he => (hlegs e he).2)
    exact List.forall_mem_cons.mpr ⟨by decide +kernel, List.forall_mem_singleton.mpr rfl⟩

end Reconcile.Message
