import Reconcile.Proofs.Message.ComparedPairs
import Reconcile.Proofs.Message.ExtraNodes

/-!
# Two comparisons side by side

Two comparisons of one expected message, with two actual messages or under two policies, go side by
side when their claims do: whatever is claimed in a turn, the messages that are found belong together,
and so do those that are left for the turns to come. Then the two fail alike, or their reports are in
every relation that parts hand on to the whole.

* `SameNode`, `HandedOn`: relations between reports that the parts hand on to the whole;
  `handedOn_success`, `handedOn_eq`: that the verdict is the same, and that all is;
* `ClaimsAlike`, `GroupAlike`, `Lockstep`: when two comparisons go side by side;
* `memberNodes_alike`, `groupNodes_alike`: the turns of a group, and all groups;
* **`Lockstep.compareMember`**, **`Lockstep.compare`**: the reports of two messages of a group, by
  induction on the expected one, and of two whole runs.
-/

namespace Reconcile.Message

open Reconcile.Diff Reconcile.Expectation

/-- The comparator with another policy for extra messages. -/
def Comparator.withPolicy (c : Comparator) (policy : ExtraPolicy) : Comparator :=
  { c with extraPolicy := policy }

/-! ## 1. Relations between reports -/

/-- Two nodes are the same but for their children. Where outputs are not kept they may differ. -/
structure SameNode (keep : Prop) (t t' : Tree) : Prop where
  name : t'.name = t.name
  comment : t'.comment = t.comment
  fields : t'.fields = t.fields
  failed : t'.failed = t.failed
  outputs : keep → t'.outputs = t.outputs

theorem SameNode.refl (keep : Prop) (t : Tree) : SameNode keep t t :=
  ⟨rfl, rfl, rfl, rfl, fun _ => rfl⟩

/-- Nodes that are the same but for their children, and have the same ones, are the same. -/
theorem SameNode.eq {keep : Prop} {t t' : Tree} (h : SameNode keep t t') (hkeep : keep)
    (children : t'.children = t.children) : t' = t := by
  obtain ⟨name, comment, fields, failed, outputs⟩ := h
  obtain ⟨_, _, _, _, _, _⟩ := t
  obtain ⟨_, _, _, _, _, _⟩ := t'
  obtain rfl : _ = _ := name
  obtain rfl : _ = _ := comment
  obtain rfl : _ = _ := fields
  obtain rfl : _ = _ := failed
  obtain rfl : _ = _ := outputs hkeep
  obtain rfl : _ = _ := children
  rfl

/-- Of nodes that are the same but for their children, success is a matter of the children. -/
theorem SameNode.success {keep : Prop} {t t' : Tree} (h : SameNode keep t t')
    (children : t'.children.all Tree.success = t.children.all Tree.success) :
    t'.success = t.success := by
  rw [Tree.success_eq, Tree.success_eq, h.failed, h.fields, children]

/-- A relation between trees and one between lists of nodes that parts of reports hand on to the
    whole. The nodes for extra messages are not built from parts. -/
structure HandedOn (keep : Prop) (R : Tree → Tree → Prop) (Rs : List Tree → List Tree → Prop) :
    Prop where
  nil : Rs [] []
  cons {t t' : Tree} {ts ts' : List Tree} : R t t' → Rs ts ts' → Rs (t :: ts) (t' :: ts')
  append {ts ts' us us' : List Tree} : Rs ts ts' → Rs us us' → Rs (ts ++ us) (ts' ++ us')
  node {t t' : Tree} : isExtras t = false → SameNode keep t t' → Rs t.children t'.children → R t t'

/-- Any two reports are reports. -/
theorem handedOn_true (keep : Prop) : HandedOn keep (fun _ _ => True) (fun _ _ => True) where
  nil := trivial
  cons _ _ := trivial
  append _ _ := trivial
  node _ _ _ := trivial

/-- Reports with the same verdict. -/
theorem handedOn_success (keep : Prop) : HandedOn keep (fun t t' => t'.success = t.success)
    (fun ts ts' => ts'.all Tree.success = ts.all Tree.success) where
  nil := rfl
  cons h hs := by rw [List.all_cons, List.all_cons, h, hs]
  append h hs := by rw [List.all_append, List.all_append, h, hs]
  node _ hsame hs := hsame.success hs

/-- Reports that are the same. -/
theorem handedOn_eq : HandedOn True (fun t t' => t' = t) (fun ts ts' => ts' = ts) where
  nil := rfl
  cons h hs := by rw [h, hs]
  append h hs := by rw [h, hs]
  node _ hsame hs := hsame.eq trivial hs

section HandedOn

variable {keep : Prop} {R R' : Tree → Tree → Prop} {Rs Rs' : List Tree → List Tree → Prop}

theorem HandedOn.and (h : HandedOn keep R Rs) (h' : HandedOn keep R' Rs') :
    HandedOn keep (fun t t' => R t t' ∧ R' t t') (fun ts ts' => Rs ts ts' ∧ Rs' ts ts') where
  nil := ⟨h.nil, h'.nil⟩
  cons ht hts := ⟨h.cons ht.1 hts.1, h'.cons ht.2 hts.2⟩
  append hts hus := ⟨h.append hts.1 hus.1, h'.append hts.2 hus.2⟩
  node hextras hsame hts := ⟨h.node hextras hsame hts.1, h'.node hextras hsame hts.2⟩

/-- What is handed on with all outputs is handed on where these are kept. -/
theorem HandedOn.when {P : Prop} (h : HandedOn True R Rs) (hkeep : P → keep) :
    HandedOn keep (fun t t' => P → R t t') (fun ts ts' => P → Rs ts ts') where
  nil _ := h.nil
  cons ht hts hp := h.cons (ht hp) (hts hp)
  append hts hus hp := h.append (hts hp) (hus hp)
  node hextras hsame hts hp := h.node hextras
    { hsame with outputs := fun _ => hsame.outputs (hkeep hp) } (hts hp)

end HandedOn

/-- Nodes of two comparisons with what is saved of them. -/
def Alike {α : Type} (keep : Prop) (R : α → α → Prop) (r r' : α × Saved) : Prop :=
  R r.1 r'.1 ∧ (keep → r'.2 = r.2)

/-! ## 2. Comparisons that go side by side -/

/-- Two claims go alike: they find messages that belong together, or they fail alike. -/
inductive ClaimsAlike (A : Message → Message → Prop) : Claim → Claim → Prop where
  | found {place place' : Nat} {m m' : Message} (h : A m m') :
      ClaimsAlike A (.found place m) (.found place' m')
  | missing : ClaimsAlike A .missing .missing
  | unreadable (field : String) (cause : Cause) :
      ClaimsAlike A (.unreadable field cause) (.unreadable field cause)

variable (c : Comparator) (policy : ExtraPolicy) (keys : List (String × List String))
  (keep : Prop) (A : Message → Message → Message → Prop) (Rs : List Tree → List Tree → Prop)

/-- The claims of a group go side by side: what is left of the two lists of actual messages is in a
    relation before all turns, and every turn keeps it; and in the end the nodes for extra messages
    are related. -/
structure GroupAlike (type : String) (members actuals actuals' : List Message)
    (L : List (Nat × Message) → List (Nat × Message) → Prop) : Prop where
  start : L (numbered actuals) (numbered actuals')
  turn {before after : List Message} {member : Message} {left left' : List (Nat × Message)} :
    members = before ++ member :: after → LeftAfter c keys type before actuals left → L left left' →
    BothGive (fun found found' => ClaimsAlike (A member) found found' ∧
        L (found.remaining left) (found'.remaining left'))
      (claim (keyFields c keys type member) member left)
      (claim (keyFields c keys type member) member left')
  extras {left left' : List (Nat × Message)} :
    LeftAfter c keys type members actuals left → L left left' →
    Rs (extraNode c.extraPolicy type (left.map (·.2))) (extraNode policy type (left'.map (·.2)))

/-- The comparisons of an expected message with two actual ones go side by side: the two agree in
    the fields that the expected one names, and in those that are saved where this counts, and the
    claims of every group go side by side, if groups are compared at all. -/
structure Lockstep : Prop where
  fields {e a a' : Message} : A e a a' → ∀ name ∈ e.fieldNames, a'.field name = a.field name
  filled {e a a' : Message} : A e a a' → keep → c.saveFields = true ∨ c.saveGroupFields = true →
    a'.filledFields = a.filledFields
  groups {e a a' : Message} : A e a a' → GroupsCompared e a →
    ∀ {type : String} {members : List Message}, (type, members) ∈ e.groups →
      ∃ L, GroupAlike c policy keys A Rs type members (a.members type) (a'.members type) L

/-! ## 3. Fields -/

variable {c policy keys keep A Rs} {R : Tree → Tree → Prop} {e a a' : Message} {type : String}

theorem mem_fieldNames_of_filled {m : Message} {name : String}
    (h : isAbsentOrEmpty (m.field name) = false) : name ∈ m.fieldNames := by
  cases hlookup : m.fields.lookup name with
  | none =>
    rw [Message.field, hlookup] at h
    cases h
  | some value =>
    exact List.mem_map.mpr ⟨(name, value), Entries.mem_of_lookup hlookup, rfl⟩

/-- The check of the types looks at the type of the actual message only where one is expected. -/
theorem typeFailure_congr (h : ∀ name ∈ e.fieldNames, a'.field name = a.field name)
    (name : String) : typeFailure name e a' = typeFailure name e a := by
  unfold typeFailure
  dsimp only
  cases hwanted : isAbsentOrEmpty (e.field typeField) with
  | true => rfl
  | false => rw [h typeField (mem_fieldNames_of_filled hwanted)]

theorem fieldLeaves_congr (h : ∀ name ∈ e.fieldNames, a'.field name = a.field name)
    (skipped : List String) : fieldLeaves skipped e a' = fieldLeaves skipped e a := by
  refine mapM_congr_of_forall₂ (List.forall₂_same.mpr fun name hname => ?_)
  rw [h name (List.mem_filter.mp hname).1]

/-- A claim looks at fields of an actual message only where the expected one fills them. -/
theorem allFieldsMatch_congr (h : ∀ name ∈ e.fieldNames, a'.field name = a.field name) :
    ∀ fields : List String, allFieldsMatch e a' fields = allFieldsMatch e a fields
  | [] => rfl
  | name :: rest => by
    have hname : fieldMatches e a' name = fieldMatches e a name := by
      unfold fieldMatches
      dsimp only
      cases hfilled : isAbsentOrEmpty (e.field name) with
      | true => rfl
      | false => rw [h name (mem_fieldNames_of_filled hfilled)]
    rw [allFieldsMatch, allFieldsMatch, hname, allFieldsMatch_congr h rest]

/-- The node of messages whose types do not match is a failure without children. -/
theorem typeFailure_node {name : String} {t : Tree}
    (h : typeFailure name e a = .ok (some t)) : isExtras t = false := by
  unfold typeFailure at h
  dsimp only at h
  split at h
  · cases h
  · split at h
    · cases h
    · obtain rfl := Option.some.inj (Except.ok.inj h)
      exact isExtras_of_comment rfl
    · obtain rfl := Option.some.inj (Except.ok.inj h)
      exact isExtras_of_comment rfl
    · cases h

/-! ## 4. Groups -/

/-- The blocks of two claims that go alike. -/
theorem claimBlock_alike (hR : HandedOn keep R Rs) {member : Message}
    (hmember : ∀ b b', A member b b' → BothGive (Alike keep R) (compareMember c keys type member b)
      (compareMember (c.withPolicy policy) keys type member b'))
    {found found' : Claim} (h : ClaimsAlike (A member) found found') :
    BothGive (Alike keep R) (claimBlock c keys type member found)
      (claimBlock (c.withPolicy policy) keys type member found') := by
  have hnotFound : ∀ error, R (notFound type member error) (notFound type member error) :=
    fun error => by
      refine hR.node (notFound_isExtras type member error) (.refl keep _) ?_
      cases error with
      | none => exact hR.nil
      | some _ => exact hR.nil
  cases h with
  | found h => exact hmember _ _ h
  | missing => exact .ok ⟨hnotFound none, fun _ => rfl⟩
  | unreadable field cause => exact .ok ⟨hnotFound (some (claimError field cause)), fun _ => rfl⟩

/-- **The turns of a group**, from any of them on: the invariant is what is left for them. -/
theorem memberNodes_alike (hR : HandedOn keep R Rs) {members actuals actuals' : List Message}
    {L : List (Nat × Message) → List (Nat × Message) → Prop}
    (h : GroupAlike c policy keys A Rs type members actuals actuals' L)
    (hmembers : ∀ m ∈ members, ∀ b b', A m b b' → BothGive (Alike keep R)
      (compareMember c keys type m b) (compareMember (c.withPolicy policy) keys type m b')) :
    ∀ {rest before : List Message} {left left' : List (Nat × Message)},
      members = before ++ rest → LeftAfter c keys type before actuals left → L left left' →
      BothGive (fun r r' => Rs r.1 r'.1 ∧ (keep → r'.2.1 = r.2.1) ∧
          LeftAfter c keys type members actuals r.2.2 ∧ L r.2.2 r'.2.2)
        (memberNodes c keys type rest left)
        (memberNodes (c.withPolicy policy) keys type rest left')
  | [], before, left, left', hsplit, hturn, hleft => by
    rw [memberNodes, memberNodes]
    rw [List.append_nil] at hsplit
    exact .ok ⟨hR.nil, fun _ => rfl, hsplit ▸ hturn, hleft⟩
  | member :: rest, before, left, left', hsplit, hturn, hleft => by
    rw [memberNodes_cons, memberNodes_cons]
    have hmem : member ∈ members := hsplit ▸ List.mem_append_cons_self
    refine (h.turn hsplit hturn hleft).bind_of_ok fun found found' hfound _ hclaims => ?_
    refine (claimBlock_alike hR (hmembers member hmem) hclaims.1).bind_of_ok
      fun block block' hblock _ halike => ?_
    refine (memberNodes_alike hR h hmembers (by rw [hsplit, List.append_assoc]; rfl)
      (hturn.turn hfound hblock) hclaims.2).bind fun r r' hr => ?_
    exact .ok ⟨hR.cons halike.1 hr.1, fun hkeep => by
      show block'.2 ++ r'.2.1 = block.2 ++ r.2.1
      rw [halike.2 hkeep, hr.2.1 hkeep], hr.2.2⟩

/-- **All groups**: their nodes are related, if those of each group are. -/
theorem groupNodes_alike (hR : HandedOn keep R Rs) : ∀ {groups : List (String × List Message)},
    (∀ g ∈ groups, ∃ L, GroupAlike c policy keys A Rs g.1 g.2 (a.members g.1) (a'.members g.1) L) →
    (∀ g ∈ groups, ∀ m ∈ g.2, ∀ b b', A m b b' → BothGive (Alike keep R)
      (compareMember c keys g.1 m b) (compareMember (c.withPolicy policy) keys g.1 m b')) →
    BothGive (Alike keep Rs) (groupNodes c keys groups a)
      (groupNodes (c.withPolicy policy) keys groups a')
  | [], _, _ => by
    rw [groupNodes, groupNodes]
    exact .ok ⟨hR.nil, fun _ => rfl⟩
  | (type, members) :: rest, hgroups, hmembers => by
    obtain ⟨⟨L, hgroup⟩, hrest⟩ := List.forall_mem_cons.mp hgroups
    obtain ⟨hmember, hmore⟩ := List.forall_mem_cons.mp hmembers
    rw [groupNodes, groupNodes]
    refine (memberNodes_alike hR hgroup hmember rfl (.start _) hgroup.start).bind fun r r' hr => ?_
    refine (groupNodes_alike hR hrest hmore).bind fun s s' hs => ?_
    refine .ok ⟨?_, fun hkeep => ?_⟩
    · exact hR.append (hR.append hr.1 (hgroup.extras hr.2.2.1 hr.2.2.2)) hs.1
    · show r'.2.1 ++ s'.2 = r.2.1 ++ s.2
      rw [hr.2.1 hkeep, hs.2 hkeep]

/-- Groups without messages are not reported, and nothing is saved of them. -/
theorem groupNodes_of_empty (c : Comparator) (keys : List (String × List String)) (a : Message) :
    ∀ {groups : List (String × List Message)}, (∀ g ∈ groups, g.2 = []) →
      ∃ nodes, groupNodes c keys groups a = .ok (nodes, [])
  | [], _ => ⟨[], by rw [groupNodes]; rfl⟩
  | (type, members) :: rest, h => by
    obtain ⟨hmembers, hrest⟩ := List.forall_mem_cons.mp h
    obtain ⟨nodes, hnodes⟩ := groupNodes_of_empty c keys a hrest
    subst hmembers
    rw [groupNodes, memberNodes, hnodes]
    exact ⟨_, rfl⟩

theorem compareGroups_of_empty (c : Comparator) (keys : List (String × List String)) (a : Message)
    (h : e.hasGroups = false) : compareGroups c keys e.hasGroups e.groups a = .ok ([], []) := by
  have hempty : ∀ g ∈ e.groups, g.2 = [] := fun g hg => by
    have hnone := List.any_eq_false.mp h g hg
    rw [Bool.not_eq_true, Bool.not_eq_false', List.isEmpty_iff] at hnone
    exact hnone
  obtain ⟨nodes, hnodes⟩ := groupNodes_of_empty c keys a hempty
  rw [compareGroups, hnodes, h]
  rfl

theorem compareGroups_alike (h : Lockstep c policy keys keep A Rs) (hR : HandedOn keep R Rs)
    (ha : A e a a') (types : TypesMatch e a)
    (hmembers : ∀ g ∈ e.groups, ∀ m ∈ g.2, ∀ b b', A m b b' → BothGive (Alike keep R)
      (compareMember c keys g.1 m b) (compareMember (c.withPolicy policy) keys g.1 m b')) :
    BothGive (Alike keep Rs) (compareGroups c keys e.hasGroups e.groups a)
      (compareGroups (c.withPolicy policy) keys e.hasGroups e.groups a') := by
  cases hgroups : e.hasGroups with
  | false =>
    rw [← hgroups, compareGroups_of_empty c keys a hgroups,
      compareGroups_of_empty (c.withPolicy policy) keys a' hgroups]
    exact .ok ⟨hR.nil, fun _ => rfl⟩
  | true =>
    rw [compareGroups, compareGroups]
    have hnodes := groupNodes_alike hR (fun g hg => h.groups ha ⟨types, hgroups⟩ hg) hmembers
    refine hnodes.bind fun r r' hr => .ok ⟨?_, hr.2⟩
    exact hR.cons (hR.node (isExtras_of_name rfl (by decide)) ⟨rfl, rfl, rfl, rfl, fun _ => rfl⟩ hr.1)
      hR.nil

/-! ## 5. Pairs and runs -/

/-- **Messages of a group**: two comparisons that go side by side fail alike, or their blocks are
    related. -/
theorem Lockstep.compareMember (h : Lockstep c policy keys keep A Rs) (hR : HandedOn keep R Rs)
    (e : Message) : ∀ (type : String) (a a' : Message), A e a a' →
      BothGive (Alike keep R) (compareMember c keys type e a)
        (compareMember (c.withPolicy policy) keys type e a') := by
  induction e using Message.induction with
  | step e ih =>
    intro type a a' ha
    obtain ⟨fields, groups⟩ := e
    rw [Message.compareMember, Message.compareMember, typeFailure_congr (h.fields ha)]
    refine (BothGive.refl _).bind_of_ok fun failure failure' hfailure _ hsame => ?_
    subst hsame
    have htypes := typeFailure_ok hfailure
    cases failure with
    | some t =>
      refine .ok ⟨hR.node (typeFailure_node hfailure) (.refl keep t) ?_, fun _ => rfl⟩
      rw [htypes.2.2]
      exact hR.nil
    | none =>
      dsimp only
      rw [show (c.withPolicy policy).skipped = c.skipped from rfl, fieldLeaves_congr (h.fields ha)]
      refine (BothGive.refl _).bind fun leaves leaves' hleaves => ?_
      subst hleaves
      have hgroups := compareGroups_alike h hR ha htypes fun g hg m hm => ih g hg m hm g.1
      refine hgroups.bind fun r r' hr => .ok ⟨?_, fun hkeep => ?_⟩
      · exact hR.node (isExtras_of_fields rfl) ⟨rfl, rfl, rfl, rfl, fun _ => rfl⟩ hr.1
      · show (if c.saveGroupFields then _ else _) ++ r'.2 = (if c.saveGroupFields then _ else _) ++ r.2
        rw [hr.2 hkeep]
        split
        · rename_i hsave
          rw [h.filled ha hkeep (.inr hsave)]
        · rfl

/-- **Two runs** that go side by side fail alike, or their reports are related. -/
theorem Lockstep.compare {given : Option (List (String × List String))}
    (h : Lockstep c policy (given.getD c.groupKeyFields) keep A Rs) (hR : HandedOn keep R Rs)
    (ha : A e a a') :
    BothGive R (compare c e a given) (compare (c.withPolicy policy) e a' given) := by
  rw [Message.compare, Message.compare, typeFailure_congr (h.fields ha)]
  refine (BothGive.refl _).bind_of_ok fun failure failure' hfailure _ hsame => ?_
  subst hsame
  have htypes := typeFailure_ok hfailure
  cases failure with
  | some t =>
    refine .ok (hR.node (typeFailure_node hfailure) (.refl keep t) ?_)
    rw [htypes.2.2]
    exact hR.nil
  | none =>
    dsimp only
    rw [show (c.withPolicy policy).skipped = c.skipped from rfl, fieldLeaves_congr (h.fields ha)]
    refine (BothGive.refl _).bind fun leaves leaves' hleaves => ?_
    subst hleaves
    have hgroups := compareGroups_alike h hR ha htypes fun g _ m _ => h.compareMember hR m g.1
    refine hgroups.bind fun r r' hr => .ok (hR.node (isExtras_of_name rfl (by decide))
      ⟨rfl, rfl, rfl, rfl, fun hkeep => ?_⟩ hr.1)
    show outputs (if c.saveFields then _ else _) r'.2 = outputs (if c.saveFields then _ else _) r.2
    rw [hr.2 hkeep]
    split
    · rename_i hsave
      rw [h.filled ha hkeep (.inl hsave)]
    · rfl

end Reconcile.Message
