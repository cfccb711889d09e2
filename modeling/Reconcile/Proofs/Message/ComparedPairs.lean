import Reconcile.Proofs.Message.GroupAccount

/-!
# The pairs of messages that are compared

A comparison of two messages leads from pair to pair: in a pair whose types match, the expected
messages of a group have their turns one after the other, and each is compared with the actual one
that it claims among those that are left.

* `memberNodes_cons`, **`memberNodes_append`**: the turn of one expected message, and the turns of
  several ones after those of others;
* `LeftAfter`: what is left of the actual messages of a group after some turns;
* `Claims`, `ComparedPair`: one step from a pair into one of its groups, and the pairs that are
  reached by such steps; `EveryPair`: what holds of all of them;
* `memberNodes_claimed`, `compareGroups_block`: where the block of a pair that is claimed stands;
* `compareGroups_succeed`, `compareGroups_claims`: where a report succeeds, so does each node of a
  group in it, and the block of each pair that is claimed.
-/

namespace Reconcile.Message

open Reconcile.Diff Reconcile.Expectation

variable (c : Comparator) (keys : List (String × List String)) (type : String)

/-! ## 1. Turns -/

/-- The block of an expected message, from what it found. -/
def claimBlock (expected : Message) : Claim → Except Breakdown (Tree × Saved)
  | .found _ m => compareMember c keys type expected m
  | .missing => .ok (notFound type expected none, [])
  | .unreadable field cause => .ok (notFound type expected (some (claimError field cause)), [])

/-- What a claim leaves of the actual messages. -/
def Claim.remaining : Claim → List (Nat × Message) → List (Nat × Message)
  | .found place _, left => left.filter (·.1 != place)
  | .missing, left | .unreadable _ _, left => left

variable {c keys type}

/-- **The turn of one expected message**: it claims, has its block, and leaves the rest to others. -/
theorem memberNodes_cons (expected : Message) (rest : List Message) (left : List (Nat × Message)) :
    memberNodes c keys type (expected :: rest) left = do
      let found ← claim (keyFields c keys type expected) expected left
      let (block, own) ← claimBlock c keys type expected found
      let (blocks, saved, left) ← memberNodes c keys type rest (found.remaining left)
      return (block :: blocks, own ++ saved, left) := by
  rw [memberNodes]
  refine bind_congr fun found => ?_
  cases found with
  | found place m => rfl
  | missing => rfl
  | unreadable field cause => rfl

/-- **Turns after turns**: those that come later find what those before them left. -/
theorem memberNodes_append (members more : List Message) : ∀ left : List (Nat × Message),
    memberNodes c keys type (members ++ more) left = do
      let (blocks, saved, left) ← memberNodes c keys type members left
      let (later, laterSaved, left) ← memberNodes c keys type more left
      return (blocks ++ later, saved ++ laterSaved, left) := by
  induction members with
  | nil =>
    intro left
    rw [memberNodes, List.nil_append]
    simp
  | cons expected rest ih =>
    intro left
    simp only [List.cons_append, memberNodes_cons, ih, bind_assoc, pure_bind, List.append_assoc]

/-! ## 2. Steps from pair to pair -/

/-- Actual messages with their places. -/
def numbered (actuals : List Message) : List (Nat × Message) :=
  actuals.zipIdx.map fun (m, j) => (j, m)

theorem numbered_messages (actuals : List Message) : (numbered actuals).map (·.2) = actuals := by
  rw [numbered, List.map_map]
  exact List.zipIdx_map_fst 0 actuals

/-- No place comes twice. -/
theorem numbered_places (actuals : List Message) : ((numbered actuals).map (·.1)).Nodup := by
  rw [numbered, List.map_map]
  show (actuals.zipIdx.map Prod.snd).Nodup
  rw [List.zipIdx_map_snd]
  exact List.nodup_range'

/-- A message stands at its place. -/
theorem mem_numbered {actuals : List Message} {q : Nat × Message} :
    q ∈ numbered actuals ↔ actuals[q.1]? = some q.2 := by
  obtain ⟨place, m⟩ := q
  rw [← List.mk_mem_zipIdx_iff_getElem?, numbered, List.mem_map]
  constructor
  · rintro ⟨p, hp, heq⟩
    cases heq
    exact hp
  · exact fun h => ⟨_, h, rfl⟩

/-- The groups of two messages are compared: their types match, and the expected one has messages
    in its groups. -/
structure GroupsCompared (expected actual : Message) : Prop where
  types : TypesMatch expected actual
  members : expected.hasGroups = true

/-- A step into a group: its type, the number of an expected message in it, and the place of an
    actual one. -/
structure Step where
  type : String
  number : Nat
  place : Nat
  deriving DecidableEq, Repr

variable (c keys)

/-- What is left of the actual messages of a group when some expected ones had their turns. -/
def LeftAfter (type : String) (members actuals : List Message) (left : List (Nat × Message)) :
    Prop :=
  ∃ blocks saved, memberNodes c keys type members (numbered actuals) = .ok (blocks, saved, left)

/-- In a pair of messages, the expected message of a group that has the number of the step claims
    the actual one at its place: when its turn comes, that is the first one left that matches. -/
inductive Claims (expected actual : Message) : Step → Message → Message → Prop where
  | intro {type : String} {before after : List Message} {member found : Message}
      {left : List (Nat × Message)} {place : Nat} (types : TypesMatch expected actual)
      (group : (type, before ++ member :: after) ∈ expected.groups)
      (turn : LeftAfter c keys type before (actual.members type) left)
      (claimed : claim (keyFields c keys type member) member left = .ok (.found place found)) :
      Claims expected actual ⟨type, before.length, place⟩ member found

/-- The pairs that are compared in the comparison of two messages, each with the steps that lead to
    it: the two messages themselves, and what is compared in a pair that one of them claims. -/
inductive ComparedPair : Message → Message → List Step → Message → Message → Prop where
  | self (expected actual : Message) : ComparedPair expected actual [] expected actual
  | inner {expected actual member found e a : Message} {step : Step} {steps : List Step}
      (claims : Claims c keys expected actual step member found)
      (pair : ComparedPair member found steps e a) :
      ComparedPair expected actual (step :: steps) e a

/-- Something holds of every pair whose groups are compared, at any depth. -/
def EveryPair (P : Message → Message → Prop) (expected actual : Message) : Prop :=
  ∀ (steps : List Step) (e a : Message), ComparedPair c keys expected actual steps e a →
    GroupsCompared e a → P e a

variable {c keys}

theorem EveryPair.self {P : Message → Message → Prop} {expected actual : Message}
    (h : EveryPair c keys P expected actual) (hcompared : GroupsCompared expected actual) :
    P expected actual := h [] expected actual (.self expected actual) hcompared

theorem EveryPair.inner {P : Message → Message → Prop} {expected actual member found : Message}
    {step : Step} (h : EveryPair c keys P expected actual)
    (hclaims : Claims c keys expected actual step member found) : EveryPair c keys P member found :=
  fun steps e a hpair => h (step :: steps) e a (.inner hclaims hpair)

/-- Before all turns everything is left. -/
theorem LeftAfter.start (actuals : List Message) :
    LeftAfter c keys type [] actuals (numbered actuals) :=
  ⟨[], [], by rw [memberNodes]; rfl⟩

theorem LeftAfter.unique {members actuals : List Message} {left left' : List (Nat × Message)}
    (h : LeftAfter c keys type members actuals left)
    (h' : LeftAfter c keys type members actuals left') : left = left' := by
  obtain ⟨_, _, h⟩ := h
  obtain ⟨_, _, h'⟩ := h'
  cases h.symm.trans h'
  rfl

/-- What is left after one more turn, if the block of what was found could be made. -/
theorem LeftAfter.turn {before actuals : List Message} {member : Message}
    {left : List (Nat × Message)} (h : LeftAfter c keys type before actuals left) {found : Claim}
    (hfound : claim (keyFields c keys type member) member left = .ok found)
    {block : Tree × Saved} (hblock : claimBlock c keys type member found = .ok block) :
    LeftAfter c keys type (before ++ [member]) actuals (found.remaining left) := by
  obtain ⟨blocks, saved, h⟩ := h
  refine ⟨blocks ++ [block.1], saved ++ (block.2 ++ []), ?_⟩
  rw [memberNodes_append, h]
  show (memberNodes c keys type [member] left >>= _) = _
  rw [memberNodes_cons, hfound]
  show ((claimBlock c keys type member found >>= _) >>= _) = _
  rw [hblock]
  simp only [memberNodes]
  rfl

/-- Turns only take from what is left. -/
theorem memberNodes_subset : ∀ {members : List Message} {left rest : List (Nat × Message)}
    {blocks : List Tree} {saved : Saved},
    memberNodes c keys type members left = .ok (blocks, saved, rest) → rest ⊆ left
  | [], left, rest, blocks, saved, h => by
    rw [memberNodes] at h
    cases h
    exact List.Subset.refl left
  | expected :: more, left, rest, blocks, saved, h => by
    rw [memberNodes_cons] at h
    obtain ⟨found, _, h⟩ := bind_ok_iff.mp h
    obtain ⟨block, _, h⟩ := bind_ok_iff.mp h
    obtain ⟨⟨later, laterSaved, last⟩, hlater, h⟩ := bind_ok_iff.mp h
    cases h
    refine List.Subset.trans (memberNodes_subset hlater) ?_
    cases found with
    | found place m => exact List.filter_subset_self left
    | missing => exact List.Subset.refl left
    | unreadable field cause => exact List.Subset.refl left

/-- What is claimed stands at the place of the step. -/
theorem Claims.getElem? {expected actual member found : Message} {step : Step}
    (h : Claims c keys expected actual step member found) :
    (actual.members step.type)[step.place]? = some found := by
  obtain ⟨_, _, ⟨blocks, saved, turn⟩, claimed⟩ := h
  obtain ⟨before, after, rfl, _⟩ := claim_describes claimed
  exact mem_numbered.mp (memberNodes_subset turn List.mem_append_cons_self)

/-- What holds of a pair, and of all pairs that could be claimed in it, holds of every pair. -/
theorem EveryPair.of_members {P : Message → Message → Prop} {expected actual : Message}
    (self : P expected actual)
    (inner : ∀ g ∈ expected.groups, ∀ member ∈ g.2, ∀ found ∈ actual.members g.1,
      EveryPair c keys P member found) : EveryPair c keys P expected actual := by
  intro steps e a hpair hcompared
  cases hpair with
  | self => exact self
  | inner claims pair =>
    have hfound := List.mem_of_getElem? claims.getElem?
    obtain ⟨_, group, _, _⟩ := claims
    exact inner _ group _ List.mem_append_cons_self _ hfound _ e a pair hcompared

/-! ## 3. Blocks of a report -/

/-- A comparison of messages of a group that succeeds has compared their groups. -/
theorem compareMember_of_success {expected actual : Message} {t : Tree} {saved : Saved}
    (h : compareMember c keys type expected actual = .ok (t, saved)) (hsuccess : t.success = true) :
    ∃ own, compareGroups c keys expected.hasGroups expected.groups actual =
      .ok (t.children, own) := by
  rcases compareMember_ok h with ⟨_, hfailed, _⟩ | ⟨_, _, own, _, hgroups, _⟩
  · rw [hsuccess] at hfailed
    cases hfailed
  · exact ⟨own, hgroups⟩

/-- A comparison that succeeds has compared the groups of the two messages. -/
theorem compare_of_success {expected actual : Message}
    {given : Option (List (String × List String))} {t : Tree}
    (h : compare c expected actual given = .ok t) (hsuccess : t.success = true) :
    ∃ own, compareGroups c (given.getD c.groupKeyFields) expected.hasGroups expected.groups actual =
      .ok (t.children, own) := by
  rcases compare_ok h with ⟨_, hfailed, _⟩ | ⟨_, own, hgroups, _⟩
  · rw [hsuccess] at hfailed
    cases hfailed
  · exact ⟨own, hgroups⟩

/-- The nodes of a group are among the nodes of the groups. -/
theorem groupNodes_of_mem {actual : Message} {members : List Message} :
    ∀ {groups : List (String × List Message)} {nodes : List Tree} {saved : Saved},
    groupNodes c keys groups actual = .ok (nodes, saved) → (type, members) ∈ groups →
    ∃ blocks own left, memberNodes c keys type members (numbered (actual.members type)) =
        .ok (blocks, own, left) ∧
      blocks ++ extraNode c.extraPolicy type (left.map (·.2)) ⊆ nodes
  | [], _, _, _, hmem => absurd hmem List.not_mem_nil
  | (other, others) :: rest, nodes, saved, h, hmem => by
    rw [groupNodes] at h
    obtain ⟨⟨blocks, own, left⟩, hmembers, h⟩ := bind_ok_iff.mp h
    obtain ⟨⟨more, moreSaved⟩, hrest, h⟩ := bind_ok_iff.mp h
    cases h
    rcases List.mem_cons.mp hmem with hhead | hmem
    · cases hhead
      exact ⟨blocks, own, left, hmembers, List.subset_append_left _ _⟩
    · obtain ⟨blocks', own', left', hmembers', hsub⟩ := groupNodes_of_mem hrest hmem
      exact ⟨blocks', own', left', hmembers', List.Subset.trans hsub (List.subset_append_right _ _)⟩

theorem hasGroups_of_mem {expected member : Message} {members : List Message}
    (hgroup : (type, members) ∈ expected.groups) (hmember : member ∈ members) :
    expected.hasGroups = true := by
  refine List.any_eq_true.mpr ⟨_, hgroup, ?_⟩
  rw [Bool.not_eq_true', List.isEmpty_eq_false_iff]
  exact List.ne_nil_of_mem hmember

/-- A pair that is claimed in one of the turns of a group is compared, and what it gives is among
    what the turns give. -/
theorem memberNodes_claimed {before after actuals : List Message} {member found : Message}
    {left rest : List (Nat × Message)} {place : Nat} {blocks : List Tree} {saved : Saved}
    (h : memberNodes c keys type (before ++ member :: after) (numbered actuals) =
      .ok (blocks, saved, rest))
    (turn : LeftAfter c keys type before actuals left)
    (claimed : claim (keyFields c keys type member) member left = .ok (.found place found)) :
    ∃ block own, compareMember c keys type member found = .ok (block, own) ∧
      block ∈ blocks ∧ own ⊆ saved := by
  obtain ⟨earlier, earlierSaved, turn⟩ := turn
  -- the turns up to the claim are those that led to it
  rw [memberNodes_append] at h
  obtain ⟨_, hbefore, h⟩ := bind_ok_iff.mp h
  cases turn.symm.trans hbefore
  obtain ⟨⟨later, laterSaved, last⟩, hlater, h⟩ := bind_ok_iff.mp h
  cases h
  rw [memberNodes_cons] at hlater
  obtain ⟨_, hfound, hlater⟩ := bind_ok_iff.mp hlater
  cases claimed.symm.trans hfound
  obtain ⟨⟨block, own⟩, hblock, hlater⟩ := bind_ok_iff.mp hlater
  obtain ⟨_, _, hlater⟩ := bind_ok_iff.mp hlater
  cases hlater
  exact ⟨block, own, hblock, List.mem_append_right _ List.mem_cons_self,
    List.subset_append_of_subset_right _ (List.subset_append_left own _)⟩

/-- The nodes of the groups hold the block of each pair that is claimed. -/
theorem compareGroups_block {expected actual member found : Message} {children : List Tree}
    {saved : Saved} {step : Step}
    (h : compareGroups c keys expected.hasGroups expected.groups actual = .ok (children, saved))
    (hclaims : Claims c keys expected actual step member found) :
    ∃ block own, compareMember c keys step.type member found = .ok (block, own) ∧
      ∃ node ∈ children, block ∈ node.children := by
  obtain ⟨_, group, turn, hclaim⟩ := hclaims
  rw [compareGroups, hasGroups_of_mem group List.mem_append_cons_self] at h
  obtain ⟨⟨nodes, _⟩, hnodes, h⟩ := bind_ok_iff.mp h
  cases h
  obtain ⟨blocks, _, _, hmembers, hsub⟩ := groupNodes_of_mem hnodes group
  obtain ⟨block, own, hblock, hmem, _⟩ := memberNodes_claimed hmembers turn hclaim
  exact ⟨block, own, hblock, _, List.mem_singleton_self _, hsub (List.mem_append_left _ hmem)⟩

section Succeeds

variable {expected actual : Message} {children : List Tree} {saved : Saved}
  (h : compareGroups c keys expected.hasGroups expected.groups actual = .ok (children, saved))
  (hsuccess : ∀ n ∈ children, n.success = true)
include h hsuccess

/-- Where the nodes of the groups succeed, so does each node of each group. -/
theorem compareGroups_succeed (hgroups : expected.hasGroups = true) {members : List Message}
    (hmem : (type, members) ∈ expected.groups) :
    ∃ blocks own left, memberNodes c keys type members (numbered (actual.members type)) =
        .ok (blocks, own, left) ∧
      ∀ n ∈ blocks ++ extraNode c.extraPolicy type (left.map (·.2)), n.success = true := by
  rw [compareGroups, hgroups] at h
  obtain ⟨⟨nodes, own⟩, hnodes, h⟩ := bind_ok_iff.mp h
  cases h
  obtain ⟨blocks, own', left, hmembers, hsub⟩ := groupNodes_of_mem hnodes hmem
  exact ⟨blocks, own', left, hmembers, fun n hn =>
    Tree.success_of_mem_children (hsuccess _ (List.mem_singleton_self _)) (hsub hn)⟩

/-- Where the nodes of the groups succeed, so does the block of each pair that is claimed. -/
theorem compareGroups_claims {step : Step} {member found : Message}
    (hclaims : Claims c keys expected actual step member found) :
    ∃ block own, compareMember c keys step.type member found = .ok (block, own) ∧
      block.success = true := by
  obtain ⟨block, own, hblock, node, hnode, hmem⟩ := compareGroups_block h hclaims
  exact ⟨block, own, hblock, Tree.success_of_mem_children (hsuccess node hnode) hmem⟩

end Succeeds

end Reconcile.Message
