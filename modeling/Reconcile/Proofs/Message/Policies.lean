import Reconcile.Proofs.Message.Lockstep

/-!
# Policies for extra messages

Which actual messages are claimed has nothing to do with what becomes of those that are not. Under
another policy the same pairs are compared; to ignore what is left over or to tell about it gives the
same verdict; and where it counts as a failure, a comparison succeeds just when it would otherwise
and nothing is left over at any depth.

* `NothingLeft`: all actual messages are claimed, in every pair that is compared;
* `sameActual_lockstep`: comparisons of the same messages under two policies go side by side;
* `ComparedPair.withPolicy`: they compare the same pairs;
* `withoutExtras_handedOn`: what is only told can be left out; `nothingLeft_of_success`: what counts
  as a failure is missed by the verdict nowhere;
* **`compare_policies`**: a comparison under the three policies.
-/

namespace Reconcile.Message

open Reconcile.Diff Reconcile.Expectation

variable {c : Comparator} {keys : List (String × List String)}

/-! ## 1. The same messages under two policies -/

section SameActual

variable {policy : ExtraPolicy} {A : Message → Message → Message → Prop}
  {Rs : List Tree → List Tree → Prop}

/-- The claims of a group are the same whatever becomes of what is left over. -/
theorem sameActual_group {type : String} {members actuals : List Message}
    (found : ∀ {before after : List Message} {member m : Message} {left : List (Nat × Message)}
      {place : Nat}, members = before ++ member :: after →
      LeftAfter c keys type before actuals left →
      claim (keyFields c keys type member) member left = .ok (.found place m) → A member m m)
    (extras : ∀ left : List (Nat × Message), LeftAfter c keys type members actuals left →
      Rs (extraNode c.extraPolicy type (left.map (·.2)))
        (extraNode policy type (left.map (·.2)))) :
    GroupAlike c policy keys A Rs type members actuals actuals Eq where
  start := rfl
  turn := by
    rintro before after member left _ hsplit hturn rfl
    cases hclaim : claim (keyFields c keys type member) member left with
    | error b => exact .error b
    | ok claimed =>
      cases claimed with
      | found place m => exact .ok ⟨.found (found hsplit hturn hclaim), rfl⟩
      | missing => exact .ok ⟨.missing, rfl⟩
      | unreadable field cause => exact .ok ⟨.unreadable field cause, rfl⟩
  extras := by
    rintro left _ hleft rfl
    exact extras _ hleft

/-- Comparisons of the same messages go side by side under two policies, as long as the nodes for
    what is left over are related. What is known of a pair may serve for that, if it is known of the
    pairs that are claimed in it too. -/
theorem sameActual_lockstep {Known : Message → Message → Prop}
    (inner : ∀ {e a : Message} {step : Step} {m b : Message}, Known e a →
      Claims c keys e a step m b → Known m b)
    (extras : ∀ {e a : Message}, Known e a → GroupsCompared e a →
      ∀ (type : String) (members : List Message), (type, members) ∈ e.groups →
      ∀ left : List (Nat × Message), LeftAfter c keys type members (a.members type) left →
        Rs (extraNode c.extraPolicy type (left.map (·.2)))
          (extraNode policy type (left.map (·.2)))) :
    Lockstep c policy keys True (fun e a a' => a' = a ∧ Known e a) Rs where
  fields := by
    rintro e a _ ⟨rfl, _⟩ name _
    rfl
  filled := by
    rintro e a _ ⟨rfl, _⟩ _ _
    rfl
  groups := by
    rintro e a _ ⟨rfl, hknown⟩ hcompared type members hgroup
    refine ⟨Eq, sameActual_group ?_ (extras hknown hcompared type members hgroup)⟩
    rintro before after member m left place hsplit hturn hclaim
    exact ⟨rfl, inner hknown (.intro hcompared.types (hsplit ▸ hgroup) hturn hclaim)⟩

end SameActual

/-! ## 2. The same pairs -/

section WithPolicy

variable (policy : ExtraPolicy)

/-- The turns of a group leave the same under another policy. -/
theorem LeftAfter.withPolicy {type : String} {members actuals : List Message}
    {left : List (Nat × Message)} (h : LeftAfter c keys type members actuals left) :
    LeftAfter (c.withPolicy policy) keys type members actuals left := by
  have hstep : Lockstep c policy keys True (fun _ a a' => a' = a ∧ True) (fun _ _ => True) :=
    sameActual_lockstep (fun _ _ => trivial) fun _ _ _ _ _ _ _ => trivial
  have hgroup : GroupAlike c policy keys (fun _ a a' => a' = a ∧ True) (fun _ _ => True) type
      members actuals actuals Eq := sameActual_group (fun _ _ _ => ⟨rfl, trivial⟩) fun _ _ => trivial
  obtain ⟨blocks, saved, h⟩ := h
  have hturns := memberNodes_alike (handedOn_true True) hgroup
    (fun m _ => hstep.compareMember (handedOn_true True) m type) (List.nil_append members).symm
    (LeftAfter.start actuals) rfl
  obtain ⟨⟨blocks', saved', left'⟩, h', _, _, _, rfl⟩ := hturns.of_ok h
  exact ⟨blocks', saved', h'⟩

theorem Claims.withPolicy {expected actual member found : Message} {step : Step}
    (h : Claims c keys expected actual step member found) :
    Claims (c.withPolicy policy) keys expected actual step member found := by
  obtain ⟨types, group, turn, claimed⟩ := h
  exact .intro types group (turn.withPolicy policy) claimed

/-- **The same pairs are compared** under another policy. -/
theorem ComparedPair.withPolicy {expected actual e a : Message} {steps : List Step}
    (h : ComparedPair c keys expected actual steps e a) :
    ComparedPair (c.withPolicy policy) keys expected actual steps e a := by
  induction h with
  | self e a => exact .self e a
  | inner claims _ ih => exact .inner (claims.withPolicy policy) ih

end WithPolicy

/-! ## 3. What is only told -/

/-- Reports that are the same when the nodes for extra messages are left out. -/
theorem withoutExtras_handedOn : HandedOn True (fun t t' => isExtras t' = false ∧ withoutExtras t' = t)
    (fun ts ts' => withoutExtrasAll ts' = ts) where
  nil := rfl
  cons := by
    rintro t t' ts ts' ⟨hextras, rfl⟩ rfl
    rw [withoutExtrasAll, hextras, if_neg Bool.false_ne_true]
  append := by
    rintro ts ts' us us' rfl rfl
    simp only [withoutExtrasAll_eq, List.filter_append, List.map_append]
  node := by
    rintro t t' hextras hsame hchildren
    refine ⟨?_, (@SameNode.eq True _ _ ?_ trivial ?_).symm⟩
    · rw [isExtras, hsame.comment, hsame.fields, hsame.name]
      exact hextras
    · rw [withoutExtras_eq]
      exact ⟨hsame.name.symm, hsame.comment.symm, hsame.fields.symm, hsame.failed.symm,
        fun hkeep => (hsame.outputs hkeep).symm⟩
    · rw [withoutExtras_eq, ← withoutExtrasAll_eq, hchildren]

/-- Nodes that are told are left out, and do not fail. -/
theorem extraNode_withoutExtras {policy : ExtraPolicy} (h : policy ≠ .fail) (type : String)
    (left : List Message) :
    withoutExtrasAll (extraNode policy type left) = [] ∧
      (extraNode policy type left).all Tree.success = true := by
  refine ⟨?_, ?_⟩
  · rw [withoutExtrasAll_eq, List.map_eq_nil_iff, List.filter_eq_nil_iff]
    intro node hnode
    rw [extraNode_isExtras policy type left node hnode]
    exact Bool.false_ne_true
  · rw [extraNode_success, bne_iff_ne.mpr h, Bool.or_true]

/-! ## 4. What counts as a failure -/

variable (c keys) in
/-- All actual messages are claimed, in each group of every pair whose groups are compared. -/
def NothingLeft : Message → Message → Prop :=
  EveryPair c keys fun e a => ∀ g ∈ e.groups, LeftAfter c keys g.1 g.2 (a.members g.1) []

/-- Where nothing is left, the policy makes no difference. -/
theorem nothingLeft_lockstep (policy : ExtraPolicy) :
    Lockstep c policy keys True (fun e a a' => a' = a ∧ NothingLeft c keys e a) (fun ts ts' => ts' = ts) := by
  refine sameActual_lockstep (fun hleft hclaims => EveryPair.inner hleft hclaims) ?_
  intro e a hleft hcompared type members hgroup left hturns
  obtain rfl := hturns.unique (EveryPair.self hleft hcompared (type, members) hgroup)
  rfl

/-- **A report that succeeds has left nothing over** at any depth, if that would have failed. -/
theorem nothingLeft_of_success (hpolicy : c.extraPolicy = .fail) {expected actual e a : Message}
    {steps : List Step} (hpair : ComparedPair c keys expected actual steps e a) :
    ∀ {children : List Tree} {saved : Saved},
      compareGroups c keys expected.hasGroups expected.groups actual = .ok (children, saved) →
      (∀ n ∈ children, n.success = true) → e.hasGroups = true →
      ∀ g ∈ e.groups, LeftAfter c keys g.1 g.2 (a.members g.1) [] := by
  induction hpair with
  | self e a =>
    rintro children saved h hsuccess hgroups ⟨type, members⟩ hmem
    obtain ⟨blocks, own, left, hturns, hall⟩ := compareGroups_succeed h hsuccess hgroups hmem
    have hextras : (extraNode c.extraPolicy type (left.map (·.2))).all Tree.success = true :=
      List.all_eq_true.mpr fun n hn => hall n (List.mem_append_right _ hn)
    rw [extraNode_success, hpolicy] at hextras
    obtain rfl : left = [] := by simpa using hextras
    exact ⟨blocks, own, hturns⟩
  | inner claims _ ih =>
    rintro children saved h hsuccess
    obtain ⟨block, own, hblock, hsucceeds⟩ := compareGroups_claims h hsuccess claims
    obtain ⟨saved', hinner⟩ := compareMember_of_success hblock hsucceeds
    exact ih hinner fun n hn => Tree.success_of_mem_children hsucceeds hn

/-! ## 5. Three policies -/

section Runs

variable {expected actual : Message} {given : Option (List (String × List String))}

/-- A comparison that returns does so under every policy. -/
theorem compare_withPolicy_returns (policy : ExtraPolicy) {t : Tree}
    (h : compare c expected actual given = .ok t) :
    ∃ t', compare (c.withPolicy policy) expected actual given = .ok t' := by
  have hstep : Lockstep c policy (given.getD c.groupKeyFields) True (fun _ a a' => a' = a ∧ True)
      (fun _ _ => True) := sameActual_lockstep (fun _ _ => trivial) fun _ _ _ _ _ _ _ => trivial
  obtain ⟨t', h', _⟩ := (hstep.compare (handedOn_true True) ⟨rfl, trivial⟩).of_ok h
  exact ⟨t', h'⟩

/-- **What is told** can be left out of a report, and has no part in its verdict. -/
theorem compare_info {ignored : Tree}
    (h : compare (c.withPolicy .ignore) expected actual given = .ok ignored) :
    ∃ informed, compare (c.withPolicy .info) expected actual given = .ok informed ∧
      withoutExtras informed = ignored ∧ informed.success = ignored.success := by
  have hstep : Lockstep (c.withPolicy .ignore) .info (given.getD c.groupKeyFields) True
      (fun _ a a' => a' = a ∧ True)
      (fun ts ts' => withoutExtrasAll ts' = ts ∧ ts'.all Tree.success = ts.all Tree.success) := by
    have htold : ExtraPolicy.info ≠ .fail := nofun
    refine sameActual_lockstep (fun _ _ => trivial) fun _ _ type _ _ left _ => ?_
    rw [show extraNode (c.withPolicy .ignore).extraPolicy type (left.map (·.2)) = [] from
      extraNode_silent (c := c.withPolicy .ignore) (.inl rfl)]
    exact extraNode_withoutExtras htold type _
  obtain ⟨informed, hinformed, ⟨_, hwithout⟩, hsuccess⟩ :=
    (hstep.compare (withoutExtras_handedOn.and (handedOn_success True)) ⟨rfl, trivial⟩).of_ok h
  exact ⟨informed, hinformed, hwithout, hsuccess⟩

/-- **What counts as a failure**: the verdict is that of the messages that are compared, and that
    nothing is left over. -/
theorem compare_fail {ignored failed : Tree}
    (hignored : compare (c.withPolicy .ignore) expected actual given = .ok ignored)
    (hfailed : compare (c.withPolicy .fail) expected actual given = .ok failed) :
    failed.success = true ↔ ignored.success = true ∧
      NothingLeft (c.withPolicy .fail) (given.getD c.groupKeyFields) expected actual := by
  -- where nothing is left over, the two reports are the same
  have hsame : NothingLeft (c.withPolicy .fail) (given.getD c.groupKeyFields) expected actual →
      ignored = failed := fun hleft => by
    obtain ⟨t, ht, hequal⟩ :=
      ((nothingLeft_lockstep .ignore).compare handedOn_eq ⟨rfl, hleft⟩).of_ok hfailed
    exact (Except.ok.inj (hignored.symm.trans ht)).trans hequal
  constructor
  · intro hsuccess
    obtain ⟨_, hgroups⟩ := compare_of_success hfailed hsuccess
    have hleft : NothingLeft (c.withPolicy .fail) (given.getD c.groupKeyFields) expected actual :=
      fun steps e a hpair hcompared => nothingLeft_of_success rfl hpair hgroups
        (fun n hn => Tree.success_of_mem_children hsuccess hn) hcompared.members
    exact ⟨hsame hleft ▸ hsuccess, hleft⟩
  · rintro ⟨hsuccess, hleft⟩
    exact hsame hleft ▸ hsuccess

/-- **Policies for extra messages.** If a comparison returns, it does so under every policy. What is
    ignored or told has the same verdict, and the report that tells about extra messages is the one
    that ignores them when their nodes are left out. The one that fails for them succeeds exactly when
    the one that ignores them does and no actual message is left over in a group of any pair that is
    compared. All compare the same pairs. -/
theorem compare_policies (h : ∃ t, compare c expected actual given = .ok t) :
    ∃ ignored informed failed,
      compare (c.withPolicy .ignore) expected actual given = .ok ignored ∧
      compare (c.withPolicy .info) expected actual given = .ok informed ∧
      compare (c.withPolicy .fail) expected actual given = .ok failed ∧
      informed.success = ignored.success ∧ withoutExtras informed = ignored ∧
      (failed.success = true ↔ ignored.success = true ∧
        NothingLeft (c.withPolicy .fail) (given.getD c.groupKeyFields) expected actual) ∧
      ∀ (policy policy' : ExtraPolicy) (steps : List Step) (e a : Message),
        ComparedPair (c.withPolicy policy) (given.getD c.groupKeyFields) expected actual steps e a →
          ComparedPair (c.withPolicy policy') (given.getD c.groupKeyFields) expected actual steps e
            a := by
  obtain ⟨t, ht⟩ := h
  obtain ⟨ignored, hignored⟩ := compare_withPolicy_returns .ignore ht
  obtain ⟨failed, hfailed⟩ := compare_withPolicy_returns .fail ht
  obtain ⟨informed, hinformed, hwithout, hsuccess⟩ := compare_info hignored
  exact ⟨ignored, informed, failed, hignored, hinformed, hfailed, hsuccess, hwithout,
    compare_fail hignored hfailed, fun _ policy' _ _ _ hpair => hpair.withPolicy policy'⟩

end Runs

/-- A leg with a part that is left over: the verdicts tell the policies apart. -/
theorem compare_policies_legs :
    let c : Comparator := { groupKeyFields := [("Leg", ["LegId"])] }
    let expected : Message := ⟨[], [("Leg", [legOf "1" "10" ["A"]])]⟩
    let actual : Message := ⟨[], [("Leg", [legOf "1" "10" ["B", "A"]])]⟩
    ∃ ignored informed failed,
      compare (c.withPolicy .ignore) expected actual none = .ok ignored ∧
      compare (c.withPolicy .info) expected actual none = .ok informed ∧
      compare (c.withPolicy .fail) expected actual none = .ok failed ∧
      withoutExtras informed = ignored ∧ informed.success = true ∧ failed.success = false ∧
      ¬ NothingLeft (c.withPolicy .fail) c.groupKeyFields expected actual := by
  intro c expected actual
  have hverdict : ∀ policy : ExtraPolicy,
      (compare (c.withPolicy policy) expected actual none).toOption.any
        (fun t => t.success == (policy != .fail)) = true := by
    intro policy
    simp only [expected, actual, legOf, List.map_cons, List.map_nil, compare, compareGroups,
      groupNodes, memberNodes, compareMember]
    cases policy <;> decide +kernel
  have hsuccess : ∀ {policy : ExtraPolicy} {t : Tree},
      compare (c.withPolicy policy) expected actual none = .ok t → t.success = (policy != .fail) := by
    intro policy t ht
    have hpolicy := hverdict policy
    rw [ht] at hpolicy
    exact beq_iff_eq.mp hpolicy
  have hreturns : ∃ t, compare c expected actual none = .ok t :=
    (exists_of_any (hverdict .ignore)).imp fun _ h => h.1
  obtain ⟨ignored, informed, failed, hignored, hinformed, hfailed, _, hwithout, hiff, _⟩ :=
    compare_policies hreturns
  refine ⟨ignored, informed, failed, hignored, hinformed, hfailed, hwithout, hsuccess hinformed,
    hsuccess hfailed, fun hleft => ?_⟩
  have hfails := hiff.mpr ⟨hsuccess hignored, hleft⟩
  rw [hsuccess hfailed] at hfails
  cases hfails

end Reconcile.Message
