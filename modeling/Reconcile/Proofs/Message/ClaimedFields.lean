import Reconcile.Proofs.Expectation.Literals
import Reconcile.Proofs.Message.ComparedPairs

/-!
# Fields that a message was claimed by

A field of a message of a group is looked at twice: when the message claims an actual one, and again
when the two are compared. Claiming tells expressions from literals and takes what is not filled as
a match; comparing first reports what is not filled and then evaluates the rest. The two agree: a
field that a message was claimed by never fails in the block of the pair.

* `fieldMatches_eq`, **`check_of_fieldMatches`**: how a claim looks at a field, and the leaf of a
  field that it matches on;
* `ComparedPair.last`: the last step to a pair is a claim;
* `ReportedPair`, `ComparedPair.reported`: where the blocks of compared pairs stand in a report;
* `ClaimedBlock`, `claimedBlock`: what the block of a claimed pair says of its fields;
* **`claimed_fields_pass`**: in every run, the fields that a pair was claimed by pass in its block.
-/

namespace Reconcile.Message

open Reconcile.Diff Reconcile.Expectation

variable {c : Comparator} {keys : List (String × List String)} {type : String}
  {expected actual e a : Message}

/-! ## 1. One field, looked at twice -/

/-- A claim evaluates an expression and compares a literal; what is not filled matches anything. -/
theorem fieldMatches_eq (e a : Message) (name : String) : fieldMatches e a name =
    if isAbsentOrEmpty (e.field name) then .ok true
    else if isExpression (e.field name) then accepts (e.field name) (a.field name)
    else .ok (e.field name == a.field name) := by
  unfold fieldMatches
  dsimp only
  cases hexpression : isExpression (e.field name) with
  | true => rfl
  | false =>
    have hliteral : literalMatches (e.field name) (a.field name) true =
        (e.field name == a.field name) := by
      cases e.field name <;> cases a.field name <;> rfl
    rw [accepts_of_literal hexpression, hliteral, if_neg Bool.false_ne_true]

/-- The leaf of a field that a claim matched on. -/
def matchedLeaf (e a : Message) (name : String) : Leaf :=
  { name, expected := e.field name, actual := a.field name
    outcome := if isAbsentOrEmpty (e.field name) then .info else .matched }

theorem matchedLeaf_outcome (e a : Message) (name : String) :
    (matchedLeaf e a name).outcome = .matched ∨ (matchedLeaf e a name).outcome = .info := by
  unfold matchedLeaf
  split
  · exact .inr rfl
  · exact .inl rfl

/-- **A field that a claim matched on passes its check**, whichever kind of text it expects. -/
theorem check_of_fieldMatches {name : String} (h : fieldMatches e a name = .ok true) :
    check name (e.field name) (a.field name) (some .nullOrEmpty) = .ok (matchedLeaf e a name) := by
  rw [fieldMatches_eq] at h
  have hinfo : (some InfoRule.nullOrEmpty).any (·.applies (e.field name)) =
      isAbsentOrEmpty (e.field name) := rfl
  rw [check, hinfo, matchedLeaf]
  cases hempty : isAbsentOrEmpty (e.field name) with
  | true => rfl
  | false =>
    rw [hempty, if_neg Bool.false_ne_true] at h
    have haccepts : accepts (e.field name) (a.field name) = .ok true := by
      cases hexpression : isExpression (e.field name) with
      | true =>
        rw [hexpression, if_pos rfl] at h
        exact h
      | false =>
        rw [hexpression, if_neg Bool.false_ne_true] at h
        have hsame : e.field name = a.field name := eq_of_beq (Except.ok.inj h)
        rw [← hsame]
        exact accepts_self hexpression true
    rw [if_neg Bool.false_ne_true, haccepts]
    rfl

/-! ## 2. The blocks of compared pairs -/

/-- The last step to a pair is a claim in a pair that is compared. -/
theorem ComparedPair.last {steps : List Step} {step : Step}
    (h : ComparedPair c keys expected actual (steps ++ [step]) e a) :
    ∃ outer found, ComparedPair c keys expected actual steps outer found ∧
      Claims c keys outer found step e a := by
  induction steps generalizing expected actual with
  | nil =>
    cases h with
    | inner claims pair =>
      cases pair with
      | self => exact ⟨expected, actual, .self expected actual, claims⟩
  | cons first rest ih =>
    cases h with
    | inner claims pair =>
      obtain ⟨outer, found, hpair, hlast⟩ := ih pair
      exact ⟨outer, found, .inner claims hpair, hlast⟩

/-- What a claim found matches in all fields that it looks at. -/
theorem Claims.fieldsMatch {step : Step} (h : Claims c keys expected actual step e a) :
    FieldsMatch e a (keyFields c keys step.type e) := by
  obtain ⟨_, _, _, claimed⟩ := h
  obtain ⟨_, _, _, _, hmatch⟩ := claim_describes claimed
  exact hmatch

theorem Claims.types {step : Step} (h : Claims c keys expected actual step e a) :
    TypesMatch expected actual := by
  obtain ⟨types, _, _, _⟩ := h
  exact types

variable (c keys) in
/-- The pairs that are compared in the comparison of two messages, each with its node in the tree of
    the two: the block of a pair that is claimed stands under the node over the groups of the pair
    that it is claimed in. -/
inductive ReportedPair : Message → Message → Tree → List Step → Message → Message → Tree → Prop where
  | self (expected actual : Message) (t : Tree) : ReportedPair expected actual t [] expected actual t
  | inner {expected actual member found e a : Message} {t node block b : Tree} {step : Step}
      {steps : List Step} {saved : Saved} (claims : Claims c keys expected actual step member found)
      (compared : compareMember c keys step.type member found = .ok (block, saved))
      (group : node ∈ t.children) (stands : block ∈ node.children)
      (pair : ReportedPair member found block steps e a b) :
      ReportedPair expected actual t (step :: steps) e a b

/-- A pair of messages of a group whose types match has leaves for its fields, and nodes for its
    groups. -/
theorem compareMember_of_types {t : Tree} {saved : Saved} (types : TypesMatch e a)
    (h : compareMember c keys type e a = .ok (t, saved)) :
    ∃ leaves own, fieldLeaves c.skipped e a = .ok leaves ∧
      t.fields = { name := groupTypeField, expected := some type, actual := some type
                   outcome := .matched } :: leaves ∧
      compareGroups c keys e.hasGroups e.groups a = .ok (t.children, own) := by
  rcases compareMember_ok h with ⟨hnot, _⟩ | ⟨_, leaves, own, hleaves, hgroups, hfields, _⟩
  · exact absurd types hnot
  · exact ⟨leaves, own, hleaves, hfields, hgroups⟩

theorem compare_of_types {given : Option (List (String × List String))} {t : Tree}
    (types : TypesMatch e a) (h : compare c e a given = .ok t) :
    ∃ own, compareGroups c (given.getD c.groupKeyFields) e.hasGroups e.groups a =
      .ok (t.children, own) := by
  rcases compare_ok h with ⟨hnot, _⟩ | ⟨_, own, hgroups, _⟩
  · exact absurd types hnot
  · exact ⟨own, hgroups⟩

/-- **Every pair that is compared is reported**, at every depth: a pair that is reached by some
    steps has its node in the tree of the two messages, and that is the block of its comparison. -/
theorem ComparedPair.reported {steps : List Step} (h : ComparedPair c keys expected actual steps e a) :
    ∀ {t : Tree}, (TypesMatch expected actual → ∃ own,
        compareGroups c keys expected.hasGroups expected.groups actual = .ok (t.children, own)) →
      ∃ block, ReportedPair c keys expected actual t steps e a block ∧
        ∀ step ∈ steps.getLast?, ∃ saved, compareMember c keys step.type e a = .ok (block, saved) := by
  induction h with
  | self expected actual => exact fun _ => ⟨_, .self expected actual _, nofun⟩
  | @inner expected actual member found e a step steps claims _ ih =>
    intro t hgroups
    obtain ⟨own, hgroups⟩ := hgroups claims.types
    obtain ⟨block, saved, hblock, node, hnode, hmem⟩ := compareGroups_block hgroups claims
    obtain ⟨inner, hinner, hlast⟩ := ih fun types => by
      obtain ⟨_, own, _, _, hown⟩ := compareMember_of_types types hblock
      exact ⟨own, hown⟩
    refine ⟨inner, .inner claims hblock hnode hmem hinner, fun last hmemLast => ?_⟩
    cases steps with
    | nil =>
      cases hinner
      obtain rfl := Option.some.inj hmemLast
      exact ⟨saved, hblock⟩
    | cons next rest =>
      rw [List.getLast?_cons_cons] at hmemLast
      exact hlast last hmemLast

/-! ## 3. The fields of a claimed pair -/

variable (c keys) in
/-- The block of a pair that was claimed: every field that it was claimed by and that is compared
    has a leaf, no such leaf fails, and where no key fields are declared no leaf fails at all. -/
structure ClaimedBlock (type : String) (e a : Message) (block : Tree) : Prop where
  present : ∀ name ∈ keyFields c keys type e, name ∈ e.fieldNames →
    c.skipped.contains name = false → matchedLeaf e a name ∈ block.fields
  passes : ∀ leaf ∈ block.fields, leaf.name ∈ keyFields c keys type e →
    leaf.outcome = .matched ∨ leaf.outcome = .info
  undeclared : (keys.lookup type).getD [] = [] → ∀ leaf ∈ block.fields, leaf.passes = true

/-- Without declared key fields a message is claimed by all fields that are compared. -/
theorem keyFields_undeclared (h : (keys.lookup type).getD [] = []) (e : Message) :
    keyFields c keys type e = e.fieldNames.filter fun n => !c.skipped.contains n := by
  unfold keyFields claimFields
  cases hlookup : keys.lookup type with
  | none => rfl
  | some names =>
    rw [hlookup, Option.getD_some] at h
    rw [h]

/-- **The leaves of compared fields** on which two messages match are those of the match. -/
theorem fieldLeaves_of_match {fields skipped : List String} {leaves : List Leaf}
    (hmatch : FieldsMatch e a fields) (h : fieldLeaves skipped e a = .ok leaves) :
    (∀ name ∈ fields, name ∈ e.fieldNames → skipped.contains name = false →
      matchedLeaf e a name ∈ leaves) ∧
    ∀ leaf ∈ leaves, leaf.name ∈ fields → leaf = matchedLeaf e a leaf.name := by
  refine ⟨fun name hname hfield hskipped => ?_, fun leaf hleaf hname => ?_⟩
  · have hcompared : name ∈ e.fieldNames.filter fun n => !skipped.contains n :=
      List.mem_filter.mpr ⟨hfield, by rw [hskipped]; rfl⟩
    exact (mem_mapM_ok_iff h).mpr ⟨name, hcompared, check_of_fieldMatches (hmatch name hname)⟩
  · obtain ⟨name, _, hcheck⟩ := (mem_mapM_ok_iff h).mp hleaf
    have hsame : leaf.name = name := check_name hcheck
    rw [hsame] at hname ⊢
    rw [check_of_fieldMatches (hmatch name hname)] at hcheck
    exact (Except.ok.inj hcheck).symm

/-- **The block of a pair whose key fields match** passes in all of them. -/
theorem claimedBlock {block : Tree} {saved : Saved} (types : TypesMatch e a)
    (hmatch : FieldsMatch e a (keyFields c keys type e))
    (h : compareMember c keys type e a = .ok (block, saved)) :
    ClaimedBlock c keys type e a block := by
  obtain ⟨leaves, _, hleaves, hfields, _⟩ := compareMember_of_types types h
  obtain ⟨hpresent, hpasses⟩ := fieldLeaves_of_match hmatch hleaves
  have hclaimed : ∀ leaf ∈ leaves, leaf.name ∈ keyFields c keys type e →
      leaf.outcome = .matched ∨ leaf.outcome = .info := by
    intro leaf hleaf hname
    rw [hpasses leaf hleaf hname]
    exact matchedLeaf_outcome e a leaf.name
  constructor
  · intro name hname hfield hskipped
    rw [hfields]
    exact List.mem_cons_of_mem _ (hpresent name hname hfield hskipped)
  · rw [hfields, List.forall_mem_cons]
    exact ⟨fun _ => .inl rfl, hclaimed⟩
  · intro hundeclared
    rw [hfields, List.forall_mem_cons]
    refine ⟨rfl, fun leaf hleaf => ?_⟩
    -- without declared keys every compared field was looked at by the claim
    have hname : leaf.name ∈ keyFields c keys type e := by
      obtain ⟨name, hcompared, hcheck⟩ := (mem_mapM_ok_iff hleaves).mp hleaf
      rw [keyFields_undeclared hundeclared, check_name hcheck]
      exact hcompared
    rcases hclaimed leaf hleaf hname with hmatched | hinfo
    · rw [Leaf.passes, hmatched]
      rfl
    · rw [Leaf.passes, hinfo]
      rfl

/-! ## 4. All claimed pairs -/

/-- **Pairing and comparing agree on messages.** In every comparison of two messages, whatever the
    service fields, the declared key fields and the policy for extra messages are, and at every
    depth: when an expected message of a group has claimed an actual one and their types match, each
    field that it was claimed by passes its check, as a match or, where nothing is filled in, as
    information. If the comparison returns, the pair has its block in the report; all fields that
    the pair was claimed by and that are compared have their leaves there, none of them a mismatch
    or an error, and in a group without declared key fields all leaves of the block pass. -/
theorem claimed_fields_pass {given : Option (List (String × List String))} {steps : List Step}
    {step : Step}
    (pair : ComparedPair c (given.getD c.groupKeyFields) expected actual (steps ++ [step]) e a)
    (types : TypesMatch e a) :
    (∀ name ∈ keyFields c (given.getD c.groupKeyFields) step.type e,
      check name (e.field name) (a.field name) (some .nullOrEmpty) = .ok (matchedLeaf e a name)) ∧
    ∀ t, compare c expected actual given = .ok t → ∃ block,
      ReportedPair c (given.getD c.groupKeyFields) expected actual t (steps ++ [step]) e a block ∧
      ClaimedBlock c (given.getD c.groupKeyFields) step.type e a block := by
  obtain ⟨outer, found, _, claims⟩ := pair.last
  have hmatch := claims.fieldsMatch
  refine ⟨fun name hname => check_of_fieldMatches (hmatch name hname), fun t ht => ?_⟩
  obtain ⟨block, hreported, hlast⟩ := pair.reported fun types => compare_of_types types ht
  obtain ⟨saved, hblock⟩ := hlast step List.getLast?_concat
  exact ⟨block, hreported, claimedBlock types hmatch hblock⟩

/-- A leg that is claimed by an expression, and whose amount differs; in it a part that is claimed by
    all of its fields, one of which is not filled in. -/
theorem claimed_fields_pass_legs :
    let c : Comparator := { groupKeyFields := [("Leg", ["LegId"])] }
    let part : Message := ⟨[("Account", some "B"), ("Note", some "")], []⟩
    let leg : Message :=
      ⟨[("LegId", some "@\x7bisInteger\x7d"), ("Amount", some "10")], [("Part", [part])]⟩
    let foundPart : Message := ⟨[("Account", some "B"), ("Note", some "late")], []⟩
    let foundLeg : Message := ⟨[("LegId", some "2"), ("Amount", some "11")],
      [("Part", [⟨[("Account", some "A")], []⟩, foundPart])]⟩
    let expected : Message := ⟨[], [("Leg", [leg])]⟩
    let actual : Message := ⟨[], [("Leg", [legOf "x" "10" ["B"], foundLeg])]⟩
    let steps : List Step := [⟨"Leg", 0, 1⟩, ⟨"Part", 0, 1⟩]
    ComparedPair c c.groupKeyFields expected actual steps part foundPart ∧
      TypesMatch part foundPart ∧ ∃ t block, compare c expected actual none = .ok t ∧
        (t.children.flatMap (·.children)).map (fun leg => leg.fields.map (·.outcome)) =
          [[.matched, .matched, .mismatch]] ∧
        ReportedPair c c.groupKeyFields expected actual t steps part foundPart block ∧
        ClaimedBlock c c.groupKeyFields "Part" part foundPart block := by
  intro c part leg foundPart foundLeg expected actual steps
  have hlegs : ("Leg", [] ++ leg :: []) ∈ expected.groups := List.mem_singleton_self _
  have hparts : ("Part", [] ++ part :: []) ∈ leg.groups := List.mem_singleton_self _
  have hleg : Claims c c.groupKeyFields expected actual ⟨"Leg", 0, 1⟩ leg foundLeg :=
    .intro (.inl rfl) hlegs (.start _) (by rfl)
  have hpart : Claims c c.groupKeyFields leg foundLeg ⟨"Part", 0, 1⟩ part foundPart :=
    .intro (.inl rfl) hparts (.start _) (by rfl)
  have hpair : ComparedPair c (Option.getD none c.groupKeyFields) expected actual
      ([⟨"Leg", 0, 1⟩] ++ [⟨"Part", 0, 1⟩]) part foundPart :=
    .inner hleg (.inner hpart (.self part foundPart))
  have htypes : TypesMatch part foundPart := .inl rfl
  have houtcomes : (compare c expected actual none).toOption.map (fun t =>
      (t.children.flatMap (·.children)).map fun leg => leg.fields.map (·.outcome)) =
        some [[.matched, .matched, .mismatch]] := by
    simp only [expected, leg, part, compare, compareGroups, groupNodes, memberNodes, compareMember]
    decide +kernel
  cases h : compare c expected actual none with
  | error b =>
    rw [h] at houtcomes
    cases houtcomes
  | ok t =>
    rw [h] at houtcomes
    obtain ⟨block, hreported, hclaimed⟩ := (claimed_fields_pass hpair htypes).2 t h
    exact ⟨hpair, htypes, t, block, rfl, Option.some.inj houtcomes, hreported, hclaimed⟩

end Reconcile.Message
