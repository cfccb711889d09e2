import Mathlib.Logic.Relation
import Reconcile.Proofs.Message.Claims
import Reconcile.Proofs.Message.Lockstep

/-!
# What an expected message mentions

A comparison looks at an actual message only in the fields and the group types that occur somewhere in
the expected one. What else the actual message has, at any depth, has no part in the verdict, and no
part in the report unless extra messages are shown or fields are saved.

* `Part`, `MentionsField`, `MentionsGroup`: what occurs in a message, with **`mentions_iff`**;
* `Agree`: two actual messages are the same in what a message mentions; `Addition`,
  **`agree_of_additions`**: they are when one of them is the other with more of what is not mentioned;
* `claim_agree`: claims among messages that agree;
* **`compare_ignores_unmentioned`**: comparisons with messages that agree.
-/

namespace Reconcile.Message

open Reconcile.Diff Reconcile.Expectation

/-! ## 1. What is mentioned -/

/-- The messages that occur in a message: it itself, and the messages of the groups of any of them. -/
inductive Part (m : Message) : Message → Prop where
  | self : Part m m
  | member {e part : Message} {g : String × List Message} (inner : Part m e) (hg : g ∈ e.groups)
      (hpart : part ∈ g.2) : Part m part

variable {m : Message}

theorem part_iff {e : Message} :
    Part m e ↔ e = m ∨ ∃ g ∈ m.groups, ∃ b ∈ g.2, Part b e := by
  constructor
  · intro h
    induction h with
    | self => exact .inl rfl
    | member _ hg hpart ih =>
      refine .inr ?_
      rcases ih with rfl | ⟨g', hg', b, hb, hinner⟩
      · exact ⟨_, hg, _, hpart, .self⟩
      · exact ⟨g', hg', b, hb, hinner.member hg hpart⟩
  · rintro (rfl | ⟨g, hg, b, hb, h⟩)
    · exact .self
    · induction h with
      | self => exact Part.self.member hg hb
      | member _ hg' hpart ih => exact ih.member hg' hpart

/-- Some message in a message has that name among its names of a kind. -/
def Mentions (m : Message) (names : Message → List String) (name : String) : Prop :=
  ∃ e, Part m e ∧ name ∈ names e

/-- What a message mentions stands in it or is mentioned by a message of its groups. -/
theorem mentions_iff {names : Message → List String} {name : String} :
    Mentions m names name ↔ name ∈ names m ∨ ∃ g ∈ m.groups, ∃ b ∈ g.2, Mentions b names name := by
  constructor
  · rintro ⟨e, he, hname⟩
    rcases part_iff.mp he with rfl | ⟨g, hg, b, hb, he⟩
    · exact .inl hname
    · exact .inr ⟨g, hg, b, hb, e, he, hname⟩
  · rintro (hname | ⟨g, hg, b, hb, e, he, hname⟩)
    · exact ⟨m, .self, hname⟩
    · exact ⟨e, part_iff.mpr (.inr ⟨g, hg, b, hb, he⟩), hname⟩

theorem not_mentions {names : Message → List String} {name : String} (hself : name ∉ names m)
    (hinner : ∀ g ∈ m.groups, ∀ b ∈ g.2, ¬ Mentions b names name) : ¬ Mentions m names name := by
  rw [mentions_iff]
  rintro (hname | ⟨g, hg, b, hb, h⟩)
  · exact hself hname
  · exact hinner g hg b hb h

/-- A field of that name occurs in a message, filled or not. -/
abbrev MentionsField (m : Message) (name : String) : Prop := Mentions m fieldNames name

/-- A group of that type occurs in a message. -/
abbrev MentionsGroup (m : Message) (type : String) : Prop := Mentions m groupTypes type

/-! ## 2. Messages that agree -/

/-- Two messages agree in what a message mentions: in the values of the fields, and in each group type
    message by message. -/
inductive Agree (m : Message) : Message → Message → Prop where
  | intro {a a' : Message}
      (fields : ∀ name, MentionsField m name → a'.field name = a.field name)
      (groups : ∀ type, MentionsGroup m type →
        List.Forall₂ (Agree m) (a.members type) (a'.members type)) : Agree m a a'

/-- One more field or message of a group, somewhere in an actual message, that is not mentioned. -/
inductive Addition (m : Message) : Message → Message → Prop where
  | field {before after : List (String × Option String)} {groups : List (String × List Message)}
      (f : String × Option String) (new : ¬ MentionsField m f.1) :
      Addition m ⟨before ++ after, groups⟩ ⟨before ++ f :: after, groups⟩
  | group {fields : List (String × Option String)} {before after : List (String × List Message)}
      (g : String × List Message) (new : ¬ MentionsGroup m g.1) :
      Addition m ⟨fields, before ++ after⟩ ⟨fields, before ++ g :: after⟩
  | member {fields : List (String × Option String)} {before after : List (String × List Message)}
      {type : String} {first last : List Message} (b : Message) (new : ¬ MentionsGroup m type) :
      Addition m ⟨fields, before ++ (type, first ++ last) :: after⟩
        ⟨fields, before ++ (type, first ++ b :: last) :: after⟩
  | inside {fields : List (String × Option String)} {before after : List (String × List Message)}
      {type : String} {first last : List Message} {b b' : Message} (inner : Addition m b b') :
      Addition m ⟨fields, before ++ (type, first ++ b :: last) :: after⟩
        ⟨fields, before ++ (type, first ++ b' :: last) :: after⟩

variable {a a' : Message}

theorem Agree.refl (m a : Message) : Agree m a a := by
  induction a using Message.induction with
  | step a ih =>
    refine .intro (fun _ _ => rfl) fun type _ => List.forall₂_same.mpr fun b hb => ?_
    obtain ⟨g, hg, hb⟩ := mem_group_of_mem_members hb
    exact ih g hg b hb

/-- Lists of messages that agree with the ones of a list between them agree with each other. -/
theorem forall₂_agree_trans : ∀ {as bs ds : List Message},
    (∀ x ∈ as, ∀ {y z : Message}, Agree m x y → Agree m y z → Agree m x z) →
    List.Forall₂ (Agree m) as bs → List.Forall₂ (Agree m) bs ds → List.Forall₂ (Agree m) as ds
  | _, _, _, _, .nil, .nil => .nil
  | _, _, _, htrans, .cons hxy hfirst, .cons hyz hlast => by
    obtain ⟨hhead, hrest⟩ := List.forall_mem_cons.mp htrans
    exact .cons (hhead hxy hyz) (forall₂_agree_trans hrest hfirst hlast)

theorem Agree.trans (a : Message) : ∀ {b d : Message}, Agree m a b → Agree m b d → Agree m a d := by
  induction a using Message.induction with
  | step a ih =>
    rintro b d ⟨fields, groups⟩ ⟨fields', groups'⟩
    refine .intro (fun name hname => (fields' name hname).trans (fields name hname)) ?_
    intro type htype
    refine forall₂_agree_trans (fun x hx => ?_) (groups type htype) (groups' type htype)
    obtain ⟨g, hg, hx⟩ := mem_group_of_mem_members hx
    exact ih g hg x hx

/-- Messages whose groups are looked up alike agree when their fields do. -/
theorem Agree.of_groups {fields fields' : List (String × Option String)}
    {groups groups' : List (String × List Message)}
    (hfields : ∀ name, MentionsField m name → fields'.lookup name = fields.lookup name)
    (hgroups : ∀ type, MentionsGroup m type → groups'.lookup type = groups.lookup type) :
    Agree m ⟨fields, groups⟩ ⟨fields', groups'⟩ := by
  refine .intro (fun name hname => ?_) fun type htype => ?_
  · rw [Message.field, Message.field, hfields name hname]
  · rw [Message.members, Message.members, hgroups type htype]
    exact List.forall₂_same.mpr fun b _ => .refl m b

/-- **An addition** of what is not mentioned leaves two messages that agree. -/
theorem Addition.agree (h : Addition m a a') : Agree m a a' := by
  induction h with
  | field f new =>
    refine .of_groups (fun name hname => ?_) fun _ _ => rfl
    exact Entries.lookup_insert (fun hne => new (hne ▸ hname)) _ _
  | group g new =>
    refine .of_groups (fun _ _ => rfl) fun type htype => ?_
    exact Entries.lookup_insert (fun hne => new (hne ▸ htype)) _ _
  | @member _ before after type first last b new =>
    refine .of_groups (fun _ _ => rfl) fun other hother => ?_
    have hne : other ≠ type := fun hne => new (hne ▸ hother)
    rw [Entries.lookup_insert (e := (type, first ++ last)) hne,
      Entries.lookup_insert (e := (type, first ++ b :: last)) hne]
  | @inside fields before after type first last b b' inner ih =>
    -- the addition shows in its group only, and there only if no other group hides it
    refine .intro (fun _ _ => rfl) fun other _ => ?_
    have hrefl : ∀ bs : List Message, List.Forall₂ (Agree m) bs bs := fun bs =>
      List.forall₂_same.mpr fun b _ => .refl m b
    rw [Message.members, Message.members, List.lookup_append, List.lookup_append]
    cases hbefore : before.lookup other with
    | some bs => exact hrefl bs
    | none =>
      by_cases hother : other = type
      · subst hother
        rw [List.lookup_cons_self, List.lookup_cons_self]
        exact List.rel_append (hrefl first) (.cons ih (hrefl last))
      · rw [List.lookup_cons, List.lookup_cons, beq_eq_false_iff_ne.mpr hother]
        exact hrefl _

/-- Messages agree when one is the other with any number of additions. -/
theorem agree_of_additions (h : Relation.ReflTransGen (Addition m) a a') : Agree m a a' := by
  induction h with
  | refl => exact .refl m a
  | tail _ hlast ih => exact .trans _ ih hlast.agree

/-! ## 3. Claims -/

/-- What is left of the messages of a group, in two actual messages: the same places, and messages
    that agree. -/
abbrev AgreeInPlace (m : Message) : List (Nat × Message) → List (Nat × Message) → Prop :=
  List.Forall₂ fun q q' => q'.1 = q.1 ∧ Agree m q.2 q'.2

theorem agreeInPlace_numbered {actuals actuals' : List Message}
    (h : List.Forall₂ (Agree m) actuals actuals') :
    AgreeInPlace m (numbered actuals) (numbered actuals') := by
  have hfrom : ∀ place : Nat, List.Forall₂ (fun p p' => p'.2 = p.2 ∧ Agree m p.1 p'.1)
      (actuals.zipIdx place) (actuals'.zipIdx place) := by
    induction h with
    | nil => exact fun _ => .nil
    | cons hb _ ih => exact fun place => .cons ⟨rfl, hb⟩ (ih (place + 1))
  unfold AgreeInPlace numbered
  rw [List.forall₂_map_left_iff, List.forall₂_map_right_iff]
  exact hfrom 0

variable {e : Message} {left left' : List (Nat × Message)}

/-- **Claims among messages that agree** find messages that agree, at the same place, or fail alike. -/
theorem claim_agree (he : Part m e) (fields : List String) (h : AgreeInPlace m left left') :
    BothGive (fun found found' => ClaimsAlike (fun b b' => Part m e ∧ Agree m b b') found found' ∧
        found'.place? = found.place?)
      (claim fields e left) (claim fields e left') := by
  induction h with
  | nil => exact .ok ⟨.missing, rfl⟩
  | @cons q q' rest rest' hq _ ih =>
    obtain ⟨place, b⟩ := q
    obtain ⟨place', b'⟩ := q'
    obtain ⟨rfl, hb⟩ : place' = place ∧ Agree m b b' := hq
    have hfields : ∀ name ∈ e.fieldNames, b'.field name = b.field name := fun name hname => by
      obtain ⟨hfields, _⟩ := hb
      exact hfields name ⟨e, he, hname⟩
    rw [claim, claim, allFieldsMatch_congr hfields]
    cases allFieldsMatch e b fields with
    | ok found =>
      cases found with
      | true => exact .ok ⟨.found ⟨he, hb⟩, rfl⟩
      | false => exact ih
    | error f =>
      obtain ⟨name, cause | breakdown⟩ := f
      · exact .ok ⟨.unreadable name cause, rfl⟩
      · exact .error breakdown

/-- What is left after claims at the same place. -/
theorem AgreeInPlace.remaining (h : AgreeInPlace m left left') {found found' : Claim}
    (hclaims : ClaimsAlike (fun b b' => Part m e ∧ Agree m b b') found found')
    (hplace : found'.place? = found.place?) :
    AgreeInPlace m (found.remaining left) (found'.remaining left') := by
  cases hclaims with
  | found _ =>
    obtain rfl := Option.some.inj hplace
    exact List.rel_filter (fun q q' hq => by simp only [hq.1]) h
  | missing => exact h
  | unreadable _ _ => exact h

/-! ## 4. Comparisons -/

/-- The settings under which a report shows nothing but what the expected message mentions. -/
structure Comparator.ShowsMentionedOnly (c : Comparator) : Prop where
  extras : c.extraPolicy = .ignore
  fields : c.saveFields = false
  groupFields : c.saveGroupFields = false

variable {c : Comparator} {keys : List (String × List String)}

/-- What is left over fails alike, and is shown in neither report when it is ignored. -/
theorem extraNode_agree (type : String) (h : AgreeInPlace m left left') :
    (extraNode c.extraPolicy type (left'.map (·.2))).all Tree.success =
        (extraNode c.extraPolicy type (left.map (·.2))).all Tree.success ∧
      (c.ShowsMentionedOnly → extraNode c.extraPolicy type (left'.map (·.2)) =
        extraNode c.extraPolicy type (left.map (·.2))) := by
  refine ⟨?_, fun hshows => ?_⟩
  · have hempty : (left'.map (·.2)).isEmpty = (left.map (·.2)).isEmpty := by
      cases h with
      | nil => rfl
      | cons _ _ => rfl
    rw [extraNode_success, extraNode_success, hempty]
  · rw [extraNode_silent (.inl hshows.extras), extraNode_silent (.inl hshows.extras)]

/-- Comparisons with messages that agree go side by side. -/
theorem agree_lockstep (m : Message) (c : Comparator) (keys : List (String × List String)) :
    Lockstep c c.extraPolicy keys c.ShowsMentionedOnly (fun e a a' => Part m e ∧ Agree m a a')
      (fun ts ts' => ts'.all Tree.success = ts.all Tree.success ∧
        (c.ShowsMentionedOnly → ts' = ts)) where
  fields := by
    rintro e a a' ⟨he, hfields, _⟩ name hname
    exact hfields name ⟨e, he, hname⟩
  filled := by
    rintro e a a' _ hshows (hsave | hsave)
    · rw [hshows.fields] at hsave
      cases hsave
    · rw [hshows.groupFields] at hsave
      cases hsave
  groups := by
    rintro e a a' ⟨he, _, hgroups⟩ _ type members hgroup
    -- what the turns keep: the same places are left, with messages that agree
    refine ⟨AgreeInPlace m, ?_, ?_, fun _ hleft => extraNode_agree type hleft⟩
    · exact agreeInPlace_numbered (hgroups type ⟨e, he, List.mem_map_of_mem hgroup⟩)
    · rintro before after member left left' rfl _ hleft
      have hmember : Part m member := he.member hgroup List.mem_append_cons_self
      refine (claim_agree hmember (keyFields c keys type member) hleft).imp fun found found' h => ?_
      exact ⟨h.1, hleft.remaining h.1 h.2⟩

/-- **What is not mentioned has no influence.** Two actual messages that agree in what the expected
    one mentions, in fields and groups at any depth, are compared alike: both comparisons fail with
    the same error, or both return reports with one verdict; and where extra messages are ignored and
    nothing is saved the reports are the same. -/
theorem compare_ignores_unmentioned {expected actual actual' : Message} (c : Comparator)
    (given : Option (List (String × List String))) (h : Agree expected actual actual') :
    BothGive (fun t t' => t'.success = t.success ∧ (c.ShowsMentionedOnly → t' = t))
      (compare c expected actual given) (compare c expected actual' given) :=
  (agree_lockstep expected c (given.getD c.groupKeyFields)).compare
    ((handedOn_success _).and (handedOn_eq.when id)) ⟨.self, h⟩

/-- A leg gets a venue, by which it is claimed but which no expected leg has, and its message gets a
    fee: the report is the same. -/
theorem compare_ignores_unmentioned_legs :
    let c : Comparator := { groupKeyFields := [("Leg", ["Venue", "LegId"])] }
    let expected : Message := ⟨[], [("Leg", [legOf "1" "10" ["A"]])]⟩
    let actual' : Message := ⟨[], [("Fee", [legOf "2" "20" []]), ("Leg",
      [⟨[("LegId", some "1"), ("Venue", some "XETR"), ("Amount", some "10")],
        [("Part", [⟨[("Account", some "A")], []⟩])]⟩])]⟩
    ∃ t, compare c expected expected none = .ok t ∧ compare c expected actual' none = .ok t := by
  intro c expected actual'
  have hlegs : ∀ {names : Message → List String} {name : String},
      name ∉ names expected → name ∉ names (legOf "1" "10" ["A"]) →
      name ∉ names ⟨[("Account", some "A")], []⟩ → ¬ Mentions expected names name := by
    intro names name htop hleg hpart
    refine not_mentions htop (List.forall_mem_singleton.mpr (List.forall_mem_singleton.mpr ?_))
    refine not_mentions hleg (List.forall_mem_singleton.mpr (List.forall_mem_singleton.mpr ?_))
    exact not_mentions hpart nofun
  have hvenue : ¬ MentionsField expected "Venue" := hlegs (by decide) (by decide) (by decide)
  have hfee : ¬ MentionsGroup expected "Fee" := hlegs (by decide) (by decide) (by decide)
  have hleg : Addition expected (legOf "1" "10" ["A"])
      ⟨[("LegId", some "1"), ("Venue", some "XETR"), ("Amount", some "10")],
        [("Part", [⟨[("Account", some "A")], []⟩])]⟩ :=
    @Addition.field expected [("LegId", some "1")] [("Amount", some "10")] _ _ hvenue
  have hagree : Agree expected expected actual' := agree_of_additions
    (.tail (.single (@Addition.inside expected [] [] [] "Leg" [] [] _ _ hleg))
      (@Addition.group expected [] [] _ ("Fee", _) hfee))
  have hreturns : (compare c expected expected none).toOption.any (fun _ => true) = true := by
    simp only [expected, legOf, List.map_cons, List.map_nil, compare, compareGroups, groupNodes,
      memberNodes, compareMember]
    decide +kernel
  obtain ⟨t, ht, _⟩ := exists_of_any hreturns
  obtain ⟨t', ht', _, hsame⟩ := (compare_ignores_unmentioned c none hagree).of_ok ht
  exact ⟨t, ht, hsame ⟨rfl, rfl, rfl⟩ ▸ ht'⟩

end Reconcile.Message
