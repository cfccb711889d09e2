import Mathlib.Data.List.Nodup
import Mathlib.Data.List.Pairwise
import Mathlib.Data.List.Perm.Basic
import Reconcile.Proofs.Message.Lockstep

/-!
# The order of actual messages

The order in which the actual messages of a group stand decides which of them an expected message
claims, as long as several match. Where every expected message matches at most one actual one, the
messages of a group may stand in any order, at any depth: what was claimed is claimed, and what was
left over is left over.

* `Reordered`: two messages that differ in the order of the messages of their groups;
* `SingleMatch`, `Unambiguous`: when claims have no choice; `claim_of_single`: what they find then;
* `Partners`, **`Partners.turn`**: what is left of a group in the two messages, and one turn;
* `SameUpToExtras`: two reports that differ in the order of the blocks of extra messages;
* **`compare_ignores_member_order`**: comparisons with messages in another order.
-/

namespace Reconcile.Message

open Reconcile.Diff Reconcile.Expectation

/-! ## 1. Messages in another order -/

/-- The second message is the first one with the messages of its groups in another order, and with
    those of their groups in another order, and so on. -/
inductive Reordered : Message → Message → Prop where
  | intro {a a' : Message} (fields : a'.fields = a.fields) (order : String → List Message)
      (permuted : ∀ type, (a.members type).Perm (order type))
      (members : ∀ type, List.Forall₂ Reordered (order type) (a'.members type)) : Reordered a a'

variable {a a' : Message}

theorem Reordered.fields_eq (h : Reordered a a') : a'.fields = a.fields := by
  obtain ⟨fields, _⟩ := h
  exact fields

theorem Reordered.field (h : Reordered a a') (name : String) : a'.field name = a.field name := by
  rw [Message.field, Message.field, h.fields_eq]

/-- A list of messages is reordered: they stand in another order, each with its own groups in
    another order. -/
def ListReordered (members members' : List Message) : Prop :=
  ∃ order, members.Perm order ∧ List.Forall₂ Reordered order members'

/-- Group by group, the lists of messages are reordered. -/
theorem Reordered.of_groups {fields : List (String × Option String)}
    {groups groups' : List (String × List Message)}
    (h : List.Forall₂ (fun g g' => g'.1 = g.1 ∧ ListReordered g.2 g'.2) groups groups') :
    Reordered ⟨fields, groups⟩ ⟨fields, groups'⟩ := by
  have hmembers : ∀ type, ListReordered (Message.members ⟨fields, groups⟩ type)
      (Message.members ⟨fields, groups'⟩ type) := fun type => by
    unfold Message.members
    dsimp only
    induction h with
    | nil => exact ⟨[], .nil, .nil⟩
    | @cons g g' rest rest' hg _ ih =>
      obtain ⟨name, members⟩ := g
      obtain ⟨name', members'⟩ := g'
      obtain ⟨rfl, hg⟩ : name' = name ∧ ListReordered members members' := hg
      rw [List.lookup_cons, List.lookup_cons]
      cases type == name' with
      | true => exact hg
      | false => exact ih
  choose order permuted members using hmembers
  exact .intro rfl order permuted members

/-! ## 2. Claims without a choice -/

section Claims

variable {fields : List String} {expected : Message}

/-- The fields by which a message is claimed can be read in all actual messages of a group, and at
    most one of these matches. -/
structure SingleMatch (fields : List String) (expected : Message) (actuals : List Message) :
    Prop where
  readable : ∀ b ∈ actuals, ∃ found, allFieldsMatch expected b fields = .ok found
  single : actuals.Pairwise fun b b' => ¬ (allFieldsMatch expected b fields = .ok true ∧
    allFieldsMatch expected b' fields = .ok true)

theorem SingleMatch.sublist {actuals left : List Message} (h : SingleMatch fields expected actuals)
    (hleft : left.Sublist actuals) : SingleMatch fields expected left :=
  ⟨fun b hb => h.readable b (hleft.subset hb), h.single.sublist hleft⟩

/-- Beside one that matches there are only messages that do not. -/
theorem SingleMatch.others {α : Type} {message : α → Message} {xs : List α} {x : α}
    (h : SingleMatch fields expected (xs.map message)) (hx : x ∈ xs)
    (hmatch : allFieldsMatch expected (message x) fields = .ok true) :
    ∀ y ∈ xs, y = x ∨ allFieldsMatch expected (message y) fields = .ok false := by
  intro y hy
  by_cases hyx : y = x
  · exact .inl hyx
  · have hsymm : Std.Symm fun x y : α => ¬ (allFieldsMatch expected (message x) fields = .ok true ∧
        allFieldsMatch expected (message y) fields = .ok true) := ⟨fun _ _ hboth h => hboth h.symm⟩
    have hapart := (List.pairwise_map.mp h.single).forall hy hx hyx
    obtain ⟨found, hfound⟩ := h.readable (message y) (List.mem_map_of_mem hy)
    cases found with
    | true => exact absurd ⟨hfound, hmatch⟩ hapart
    | false => exact .inr hfound

theorem singleMatch_iff {actuals : List Message} : SingleMatch fields expected actuals ↔
    (∀ b ∈ actuals, (allFieldsMatch expected b fields).toOption.isSome = true) ∧
      actuals.Pairwise fun b b' => ¬ ((allFieldsMatch expected b fields).toOption = some true ∧
        (allFieldsMatch expected b' fields).toOption = some true) := by
  have hsome : ∀ (b : Message) (found : Bool),
      (allFieldsMatch expected b fields).toOption = some found ↔
        allFieldsMatch expected b fields = .ok found := fun b found => by
    cases allFieldsMatch expected b fields with
    | error f => exact ⟨nofun, nofun⟩
    | ok r => exact ⟨fun h => congrArg Except.ok (Option.some.inj h), fun h => by rw [h]; rfl⟩
  simp only [Option.isSome_iff_exists, hsome]
  exact ⟨fun h => ⟨h.readable, h.single⟩, fun h => ⟨h.1, h.2⟩⟩

instance (fields : List String) (expected : Message) (actuals : List Message) :
    Decidable (SingleMatch fields expected actuals) := decidable_of_iff _ singleMatch_iff.symm

/-- What is the only message left that matches is found. -/
theorem claim_of_single {q : Nat × Message} : ∀ {left : List (Nat × Message)}, q ∈ left →
    allFieldsMatch expected q.2 fields = .ok true →
    (∀ x ∈ left, x = q ∨ allFieldsMatch expected x.2 fields = .ok false) →
    claim fields expected left = .ok (.found q.1 q.2)
  | [], hq, _, _ => absurd hq List.not_mem_nil
  | x :: rest, hq, hmatch, hothers => by
    obtain ⟨hx, hrest⟩ := List.forall_mem_cons.mp hothers
    rcases hx with rfl | hx
    · rw [claim, hmatch]
    · rcases List.mem_cons.mp hq with rfl | hq
      · cases hx.symm.trans hmatch
      · rw [claim, hx]
        exact claim_of_single hq hmatch hrest

/-- Where no message that is left matches, none is found. -/
theorem claim_of_none : ∀ {left : List (Nat × Message)},
    (∀ x ∈ left, allFieldsMatch expected x.2 fields = .ok false) →
    claim fields expected left = .ok .missing
  | [], _ => rfl
  | x :: rest, hothers => by
    obtain ⟨hx, hrest⟩ := List.forall_mem_cons.mp hothers
    rw [claim, hx]
    exact claim_of_none hrest

end Claims

/-- Claims have no choice, for any message in the groups of any pair that is compared. -/
def Unambiguous (c : Comparator) (keys : List (String × List String)) : Message → Message → Prop :=
  EveryPair c keys fun e a => ∀ g ∈ e.groups, ∀ member ∈ g.2,
    SingleMatch (keyFields c keys g.1 member) member (a.members g.1)

/-! ## 3. What is left -/

/-- What is left of the messages of a group in two actual messages, in pairs: the one on the one side
    differs from the one on the other only in the order of the messages of its groups. -/
structure Partners (actuals : List Message) (left left' : List (Nat × Message))
    (pairs : List ((Nat × Message) × (Nat × Message))) : Prop where
  first : pairs.map (·.1) = left
  second : (pairs.map (·.2)).Perm left'
  reordered : ∀ p ∈ pairs, Reordered p.1.2 p.2.2
  members : (pairs.map fun p => p.1.2).Sublist actuals
  places : (pairs.map fun p => p.1.1).Nodup
  places' : (pairs.map fun p => p.2.1).Nodup

variable {actuals actuals' : List Message} {left left' : List (Nat × Message)}
  {pairs : List ((Nat × Message) × (Nat × Message))}

/-- Before all turns the messages have their partners. -/
theorem Partners.start {order : List Message} (permuted : actuals.Perm order)
    (members : List.Forall₂ Reordered order actuals') :
    ∃ pairs, Partners actuals (numbered actuals) (numbered actuals') pairs := by
  have hplaced : List.Forall₂ (fun b q' => Reordered b q'.2) order (numbered actuals') := by
    rw [← numbered_messages actuals', List.forall₂_map_right_iff] at members
    exact members
  -- what stands opposite each message in the order of the first list
  obtain ⟨opposite, hopposite, hperm⟩ := List.perm_comp_forall₂ permuted hplaced
  have hpairs : List.Forall₂ (fun q q' => Reordered q.2 q'.2) (numbered actuals) opposite := by
    rw [← numbered_messages actuals, List.forall₂_map_left_iff] at hopposite
    exact hopposite
  obtain ⟨hlength, hreordered⟩ := List.forall₂_iff_zip.mp hpairs
  have hfirst : ((numbered actuals).zip opposite).map (·.1) = numbered actuals :=
    List.map_fst_zip (Nat.le_of_eq hlength)
  have hsecond : ((numbered actuals).zip opposite).map (·.2) = opposite :=
    List.map_snd_zip (Nat.le_of_eq hlength.symm)
  refine ⟨(numbered actuals).zip opposite, hfirst, hsecond.symm ▸ hperm, fun p hp => hreordered hp,
    ?_, ?_, ?_⟩
  · have hmembers := congrArg (List.map (·.2)) hfirst
    rw [List.map_map, numbered_messages] at hmembers
    exact hmembers.symm ▸ List.Sublist.refl actuals
  · have hplaces := numbered_places actuals
    rw [← hfirst, List.map_map] at hplaces
    exact hplaces
  · have hplaces := numbered_places actuals'
    rw [← (hperm.map (·.1)).nodup_iff, ← hsecond, List.map_map] at hplaces
    exact hplaces

/-- Partners that are taken from the two sides leave the other ones. -/
theorem Partners.without (h : Partners actuals left left' pairs)
    {p : (Nat × Message) × (Nat × Message)} (hp : p ∈ pairs) :
    Partners actuals (left.filter (·.1 != p.1.1)) (left'.filter (·.1 != p.2.1))
      (pairs.filter fun q => q.1.1 != p.1.1) := by
  have hsub : (pairs.filter fun q => q.1.1 != p.1.1).Sublist pairs := List.filter_sublist
  -- either place tells the partners from all others
  have hplace : ∀ q ∈ pairs, (q.1.1 != p.1.1) = (q.2.1 != p.2.1) := fun q hq => by
    rw [Bool.eq_iff_iff, bne_iff_ne, bne_iff_ne, not_iff_not]
    refine ⟨fun heq => ?_, fun heq => ?_⟩
    · rw [List.inj_on_of_nodup_map h.places hq hp heq]
    · rw [List.inj_on_of_nodup_map h.places' hq hp heq]
  refine ⟨?_, ?_, fun q hq => h.reordered q (hsub.subset hq), (hsub.map _).trans h.members,
    h.places.sublist (hsub.map _), h.places'.sublist (hsub.map _)⟩
  · rw [← h.first, List.filter_map]
    rfl
  · refine List.Perm.trans (List.Perm.of_eq ?_) (h.second.filter _)
    rw [List.filter_map, List.filter_congr hplace]
    rfl

section Turn

variable (h : Partners actuals left left' pairs)
include h

theorem Partners.exists_first : ∀ x ∈ left, ∃ p ∈ pairs, p.1 = x := fun _ hx =>
  List.mem_map.mp (h.first.symm ▸ hx)

theorem Partners.exists_second : ∀ x ∈ left', ∃ p ∈ pairs, p.2 = x := fun _ hx =>
  List.mem_map.mp (h.second.mem_iff.mpr hx)

/-- Partners match an expected message alike. -/
theorem Partners.allFieldsMatch_eq (member : Message) (fields : List String) : ∀ p ∈ pairs,
    allFieldsMatch member p.2.2 fields = allFieldsMatch member p.1.2 fields := fun p hp =>
  allFieldsMatch_congr (fun name _ => (h.reordered p hp).field name) fields

/-- **A turn.** A claim without a choice finds partners on the two sides or nothing on either, and
    leaves messages with their partners. -/
theorem Partners.turn {fields : List String} {member : Message}
    (hsingle : SingleMatch fields member actuals) :
    ∃ found found' rest, claim fields member left = .ok found ∧
      claim fields member left' = .ok found' ∧ ClaimsAlike Reordered found found' ∧
      Partners actuals (found.remaining left) (found'.remaining left') rest := by
  have hleft : SingleMatch fields member (pairs.map fun p => p.1.2) := hsingle.sublist h.members
  have halike := h.allFieldsMatch_eq member fields
  by_cases hfound : ∃ p ∈ pairs, allFieldsMatch member p.1.2 fields = .ok true
  · obtain ⟨p, hp, hmatch⟩ := hfound
    have hothers := hleft.others hp hmatch
    refine ⟨.found p.1.1 p.1.2, .found p.2.1 p.2.2, _, ?_, ?_, .found (h.reordered p hp),
      h.without hp⟩
    · refine claim_of_single (h.first ▸ List.mem_map_of_mem hp) hmatch fun x hx => ?_
      obtain ⟨q, hq, rfl⟩ := h.exists_first x hx
      exact (hothers q hq).imp_left (congrArg Prod.fst)
    · refine claim_of_single (h.second.mem_iff.mp (List.mem_map_of_mem hp))
        ((halike p hp).trans hmatch) fun x hx => ?_
      obtain ⟨q, hq, rfl⟩ := h.exists_second x hx
      rw [halike q hq]
      exact (hothers q hq).imp_left (congrArg Prod.snd)
  · have hnone : ∀ p ∈ pairs, allFieldsMatch member p.1.2 fields = .ok false := fun p hp => by
      obtain ⟨found, hread⟩ := hleft.readable p.1.2 (List.mem_map_of_mem hp)
      cases found with
      | true => exact absurd ⟨p, hp, hread⟩ hfound
      | false => exact hread
    refine ⟨.missing, .missing, pairs, claim_of_none fun x hx => ?_, claim_of_none fun x hx => ?_,
      .missing, h⟩
    · obtain ⟨p, hp, rfl⟩ := h.exists_first x hx
      exact hnone p hp
    · obtain ⟨p, hp, rfl⟩ := h.exists_second x hx
      exact (halike p hp).trans (hnone p hp)

end Turn

/-! ## 4. Reports -/

/-- The block of an extra message without its number. -/
def unnumbered (block : Tree) : Tree := { block with name := none }

/-- Two reports are the same, but that the blocks of extra messages stand in another order, with the
    numbers of their places. -/
inductive SameUpToExtras : Tree → Tree → Prop where
  | node {t t' : Tree} (same : SameNode True t t')
      (children : List.Forall₂ SameUpToExtras t.children t'.children) : SameUpToExtras t t'
  | extras {t t' : Tree} (extras : isExtras t = true) (same : SameNode True t t')
      (names : t'.children.map (·.name) = t.children.map (·.name))
      (blocks : (t.children.map unnumbered).Perm (t'.children.map unnumbered)) : SameUpToExtras t t'

theorem SameUpToExtras.outputs_eq {t t' : Tree} (h : SameUpToExtras t t') : t'.outputs = t.outputs := by
  cases h with
  | node same _ => exact same.outputs trivial
  | extras _ same _ _ => exact same.outputs trivial

theorem sameUpToExtras_handedOn :
    HandedOn True SameUpToExtras (List.Forall₂ SameUpToExtras) where
  nil := .nil
  cons h hs := .cons h hs
  append h hs := List.rel_append h hs
  node _ hsame hs := .node hsame hs

/-- The names of the blocks of extra messages are those of their places. -/
theorem extraBlocks_names (type : String) (outcome : Outcome) (shown : List Message) :
    (shown.zipIdx.map fun (m, i) => extraBlock type outcome (i + 1) m).map (·.name) =
      (List.range' 0 shown.length).map fun i => some (type ++ " #" ++ toString (i + 1)) := by
  rw [← List.zipIdx_map_snd, List.map_map, List.map_map]
  rfl

/-- But for their numbers the blocks of extra messages show nothing but the fields of each. -/
theorem extraBlocks_unnumbered (type : String) (outcome : Outcome) (shown : List Message) :
    (shown.zipIdx.map fun (m, i) => extraBlock type outcome (i + 1) m).map unnumbered =
      (shown.map Message.fields).map fun fields =>
        { fields := fields.map fun (n, v) => { name := n, expected := none, actual := v, outcome } } := by
  rw [List.map_map, List.map_map]
  conv_rhs => rw [← List.zipIdx_map_fst 0 shown, List.map_map]
  rfl

section Shown

variable {shown shown' : List Message} (h : (shown.map Message.fields).Perm (shown'.map Message.fields))
include h

theorem length_of_fields : shown'.length = shown.length := by
  rw [← List.length_map Message.fields, ← h.length_eq, List.length_map]

theorem isEmpty_of_fields : shown'.isEmpty = shown.isEmpty := by
  rw [Bool.eq_iff_iff, List.isEmpty_iff_length_eq_zero, List.isEmpty_iff_length_eq_zero,
    length_of_fields h]

/-- Extra messages in another order have nodes that differ in the order of their blocks. -/
theorem extraNode_order (policy : ExtraPolicy) (type : String) :
    List.Forall₂ SameUpToExtras (extraNode policy type shown) (extraNode policy type shown') := by
  have hextras := extraNode_isExtras policy type shown
  unfold extraNode at hextras ⊢
  rw [isEmpty_of_fields h]
  by_cases hsilent : (shown.isEmpty || policy == .ignore) = true
  · rw [if_pos hsilent, if_pos hsilent]
    exact .nil
  · rw [if_neg hsilent] at hextras
    rw [if_neg hsilent, if_neg hsilent]
    refine .cons (.extras (hextras _ (List.mem_singleton_self _)) ⟨rfl, rfl, rfl, rfl, fun _ => rfl⟩
      ?_ ?_) .nil
    · rw [extraBlocks_names, extraBlocks_names, length_of_fields h]
    · rw [extraBlocks_unnumbered, extraBlocks_unnumbered]
      exact h.map _

end Shown

/-- What is left over has the same fields on the two sides. -/
theorem Partners.fields (h : Partners actuals left left' pairs) :
    ((left.map (·.2)).map Message.fields).Perm ((left'.map (·.2)).map Message.fields) := by
  have hsame : (pairs.map (·.1)).map (fun q => q.2.fields) =
      (pairs.map (·.2)).map fun q => q.2.fields := by
    rw [List.map_map, List.map_map]
    exact List.map_congr_left fun p hp => (h.reordered p hp).fields_eq.symm
  rw [List.map_map, List.map_map, ← h.first]
  exact (List.Perm.of_eq hsame).trans (h.second.map fun q => q.2.fields)

/-! ## 5. Comparisons -/

variable {c : Comparator} {keys : List (String × List String)}

/-- Comparisons with messages in another order go side by side where claims have no choice. -/
theorem reordered_lockstep (c : Comparator) (keys : List (String × List String)) :
    Lockstep c c.extraPolicy keys True
      (fun e a a' => Reordered a a' ∧ Unambiguous c keys e a)
      (fun ts ts' => List.Forall₂ SameUpToExtras ts ts' ∧
        ts'.all Tree.success = ts.all Tree.success ∧ (c.extraPolicy = .ignore → ts' = ts)) where
  fields h name _ := h.1.field name
  filled h _ _ := by rw [filledFields, filledFields, h.1.fields_eq]
  groups := by
    rintro e a a' ⟨⟨_, order, permuted, hmembers⟩, hunambiguous⟩ hcompared type members hgroup
    -- what the turns keep: the messages that are left have their partners
    refine ⟨fun left left' => ∃ pairs, Partners (a.members type) left left' pairs, ?_, ?_, ?_⟩
    · exact Partners.start (permuted type) (hmembers type)
    · rintro before after member left left' rfl hturn ⟨pairs, hpairs⟩
      have hsingle := hunambiguous.self hcompared _ hgroup member List.mem_append_cons_self
      obtain ⟨found, found', rest, hfound, hfound', hclaims, hrest⟩ := hpairs.turn hsingle
      rw [hfound, hfound']
      refine .ok ⟨?_, rest, hrest⟩
      cases hclaims with
      | found h =>
        have hclaim := Claims.intro hcompared.types hgroup hturn hfound
        exact .found ⟨h, hunambiguous.inner hclaim⟩
      | missing => exact .missing
      | unreadable field cause => exact .unreadable field cause
    · rintro left left' _ ⟨pairs, hpairs⟩
      refine ⟨extraNode_order hpairs.fields c.extraPolicy type, ?_, fun hignore => ?_⟩
      · rw [extraNode_success, extraNode_success, isEmpty_of_fields hpairs.fields]
      · rw [extraNode_silent (.inl hignore), extraNode_silent (.inl hignore)]

/-- **The order of actual messages makes no difference** where claims have no choice: where in every
    pair that is compared the claims of the expected messages can be evaluated, and each has at most
    one actual message that matches. Then with the messages of the groups in another order, at any
    depth, both comparisons fail with the same error, or both return reports that are the same up to
    the order of the blocks of extra messages and their numbers, with one verdict and the same outputs;
    and where extra messages are ignored the reports are the same. -/
theorem compare_ignores_member_order {expected actual actual' : Message}
    {given : Option (List (String × List String))} (hreordered : Reordered actual actual')
    (hunambiguous : Unambiguous c (given.getD c.groupKeyFields) expected actual) :
    BothGive (fun t t' => SameUpToExtras t t' ∧ t'.outputs = t.outputs ∧ t'.success = t.success ∧
        (c.extraPolicy = .ignore → t' = t))
      (compare c expected actual given) (compare c expected actual' given) := by
  have hhanded := sameUpToExtras_handedOn.and
    ((handedOn_success True).and (handedOn_eq.when fun (_ : c.extraPolicy = .ignore) => trivial))
  have hreports := (reordered_lockstep c (given.getD c.groupKeyFields)).compare hhanded
    ⟨hreordered, hunambiguous⟩
  exact hreports.imp fun t t' h => ⟨h.1, h.1.outputs_eq, h.2⟩

/-- Two legs that change places around an extra one, with parts in another order. -/
theorem compare_ignores_member_order_legs :
    let c : Comparator := { extraPolicy := .info, groupKeyFields := [("Leg", ["LegId"])] }
    let expected : Message := ⟨[], [("Leg", [legOf "1" "10" ["A", "B"], legOf "2" "20" []])]⟩
    let actual : Message := ⟨[],
      [("Leg", [legOf "2" "20" [], legOf "3" "30" [], legOf "1" "10" ["B", "A"]])]⟩
    let actual' : Message := ⟨[],
      [("Leg", [legOf "1" "10" ["A", "B"], legOf "3" "30" [], legOf "2" "20" []])]⟩
    ∃ t t', compare c expected actual none = .ok t ∧ compare c expected actual' none = .ok t' ∧
      SameUpToExtras t t' ∧ t'.outputs = t.outputs ∧ t'.success = t.success := by
  intro c expected actual actual'
  have hpart : ∀ account : String, Reordered ⟨[("Account", some account)], []⟩
      ⟨[("Account", some account)], []⟩ := fun _ => .of_groups .nil
  have hlegs : ∀ (id amount : String) {accounts accounts' : List String}, accounts.Perm accounts' →
      Reordered (legOf id amount accounts) (legOf id amount accounts') := by
    intro id amount accounts accounts' h
    refine .of_groups (.cons ⟨rfl, _, h.map _, List.forall₂_same.mpr fun part hmem => ?_⟩ .nil)
    obtain ⟨account, _, rfl⟩ := List.mem_map.mp hmem
    exact hpart account
  have hreordered : Reordered actual actual' := by
    refine .of_groups (.cons ⟨rfl, _, (List.reverse_perm _).symm, ?_⟩ .nil)
    exact .cons (hlegs "1" "10" (.swap "A" "B" []))
      (.cons (hlegs "3" "30" .nil) (.cons (hlegs "2" "20" .nil) .nil))
  have hunambiguous : Unambiguous c c.groupKeyFields expected actual := by
    have hleaves : ∀ g ∈ expected.groups, ∀ leg ∈ g.2, ∀ parts ∈ leg.groups, ∀ part ∈ parts.2,
        part.groups.isEmpty = true := by decide +kernel
    have hparts : ∀ g ∈ expected.groups, ∀ leg ∈ g.2, ∀ found ∈ actual.members g.1,
        ∀ parts ∈ leg.groups, ∀ part ∈ parts.2,
        SingleMatch (keyFields c c.groupKeyFields parts.1 part) part (found.members parts.1) := by
      decide +kernel
    refine .of_members (by decide +kernel) fun g hg leg hleg found hfound => ?_
    refine .of_members (hparts g hg leg hleg found hfound) fun parts hparts part hpart _ _ => ?_
    have hempty := List.isEmpty_iff.mp (hleaves g hg leg hleg parts hparts part hpart)
    exact .of_members (hempty ▸ nofun) (hempty ▸ nofun)
  have hreturns : (compare c expected actual none).toOption.any (fun _ => true) = true := by
    simp only [expected, actual, legOf, List.map_cons, List.map_nil, compare, compareGroups, groupNodes,
      memberNodes, compareMember]
    decide +kernel
  obtain ⟨t, ht, _⟩ := exists_of_any hreturns
  obtain ⟨t', ht', hsame, houtputs, hverdict, _⟩ :=
    (compare_ignores_member_order hreordered hunambiguous).of_ok ht
  exact ⟨t, t', ht, ht', hsame, houtputs, hverdict⟩

end Reconcile.Message
