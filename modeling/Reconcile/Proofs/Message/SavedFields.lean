import Mathlib.Data.List.Nodup
import Reconcile.Proofs.Message.ClaimedFields

/-!
# Saved fields

A comparison that saves fields keeps those of every actual message that was claimed in a group and
has the expected type, at any depth, under the name of the node that it belongs to. Where each
expected message of a group tells where it comes from, and no two of them tell the same, that is one
entry for each of these pairs and nothing else.

* `inner`, `inner_eq`: the messages of the groups of a message, at every depth; `DistinctSources`;
* `TurnSaves`, **`memberNodes_saved`**: what the turns of a group save;
* `SavedPair`, `compareMember_saved`, **`compareGroups_saved`**: what is saved, said by pairs;
* `compareMember_names`, `compareGroups_names`: the names of what is saved, in their order;
* `Claims.of_source`, **`ComparedPair.of_source`**: sources that differ tell pairs apart;
* `OutputsAccount`, **`saved_fields_complete`**: the outputs of a comparison.
-/

namespace Reconcile.Message

open Reconcile.Diff Reconcile.Document Reconcile.Expectation

/-! ## 1. Messages of groups -/

mutual

/-- The messages of the groups of a message, each followed by those of its own groups. -/
def inner : Message → List Message
  | ⟨_, groups⟩ => innerOfGroups groups

def innerOfGroups : List (String × List Message) → List Message
  | [] => []
  | (_, members) :: rest => innerOfMembers members ++ innerOfGroups rest

def innerOfMembers : List Message → List Message
  | [] => []
  | m :: rest => m :: inner m ++ innerOfMembers rest

end

theorem innerOfMembers_eq : ∀ members : List Message,
    innerOfMembers members = members.flatMap fun m => m :: inner m
  | [] => rfl
  | m :: rest => by rw [innerOfMembers, innerOfMembers_eq rest, List.flatMap_cons]

theorem innerOfGroups_eq : ∀ groups : List (String × List Message),
    innerOfGroups groups = groups.flatMap fun g => g.2.flatMap fun m => m :: inner m
  | [] => rfl
  | (type, members) :: rest => by
    rw [innerOfGroups, innerOfMembers_eq, innerOfGroups_eq rest, List.flatMap_cons]

theorem inner_eq (m : Message) :
    m.inner = m.groups.flatMap fun g => g.2.flatMap fun e => e :: e.inner := by
  obtain ⟨fields, groups⟩ := m
  rw [inner, innerOfGroups_eq]

/-- What a message tells of where it comes from. -/
def source (m : Message) : Option String := m.field sourceField

/-- Every message of a group, at any depth, tells where it comes from, and no two tell the same. -/
structure DistinctSources (m : Message) : Prop where
  filled : ∀ e ∈ m.inner, isAbsentOrEmpty e.source = false
  nodup : (m.inner.map source).Nodup

/-- The node of a message that tells where it comes from bears that name. -/
theorem nodeName_of_source {e : Message} (h : isAbsentOrEmpty e.source = false) (type : String) :
    e.source = some (nodeName type e) := by
  unfold source at h ⊢
  unfold nodeName
  cases hfield : e.field sourceField with
  | none =>
    rw [hfield] at h
    cases h
  | some s =>
    rw [hfield] at h
    replace h : s.isEmpty = false := h
    dsimp only
    rw [h, if_neg Bool.false_ne_true]

/-- The fields of a message that have a value that is not empty, in their order. -/
def IsFilled (m : Message) (fields : List (String × String)) : Prop :=
  fields.map (fun f => (f.1, some f.2)) = m.fields.filter fun f => !isAbsentOrEmpty f.2

theorem isFilled_iff {m : Message} {fields : List (String × String)} :
    IsFilled m fields ↔ fields = m.filledFields := by
  have hfilled : m.filledFields.map (fun f => (f.1, some f.2)) =
      m.fields.filter fun f => !isAbsentOrEmpty f.2 := by
    rw [filledFields, List.map_filterMap, ← List.filterMap_eq_filter]
    refine List.filterMap_congr fun f _ => ?_
    obtain ⟨name, value⟩ := f
    cases value with
    | none => rfl
    | some v => cases hv : v.isEmpty <;> simp [isAbsentOrEmpty, hv, Option.guard]
  have hinjective : Function.Injective fun f : String × String => (f.1, some f.2) := by
    rintro ⟨n, v⟩ ⟨n', v'⟩ h
    simpa using h
  rw [IsFilled, ← hfilled]
  exact (List.map_injective_iff.mpr hinjective).eq_iff

/-! ## 2. What is saved -/

variable {c : Comparator} {keys : List (String × List String)} {type : String}
  {expected actual e a : Message} {x : String × List (String × String)}

variable (c keys type) in
/-- In one of the turns of a group an expected message claims an actual one, and something is saved
    of the two. -/
inductive TurnSaves (members actuals : List Message) (x : String × List (String × String)) :
    Prop where
  | intro {before after : List Message} {member found : Message} {left : List (Nat × Message)}
      {place : Nat} {block : Tree} {own : Saved} (split : members = before ++ member :: after)
      (turn : LeftAfter c keys type before actuals left)
      (claimed : claim (keyFields c keys type member) member left = .ok (.found place found))
      (compared : compareMember c keys type member found = .ok (block, own)) (mem : x ∈ own) :
      TurnSaves members actuals x

/-- What is saved in later turns was saved in one of the turns. -/
theorem turnSaves_of_later {actuals : List Message} (rest : List Message) :
    ∀ {before : List Message} {left last : List (Nat × Message)} {blocks : List Tree}
    {saved : Saved}, LeftAfter c keys type before actuals left →
    memberNodes c keys type rest left = .ok (blocks, saved, last) → x ∈ saved →
    TurnSaves c keys type (before ++ rest) actuals x := by
  induction rest with
  | nil =>
    intro before left last blocks saved _ h hx
    rw [memberNodes] at h
    cases h
    cases hx
  | cons member rest ih =>
    intro before left last blocks saved turn h hx
    rw [memberNodes_cons] at h
    obtain ⟨found, hclaim, h⟩ := bind_ok_iff.mp h
    obtain ⟨⟨block, own⟩, hblock, h⟩ := bind_ok_iff.mp h
    obtain ⟨⟨more, moreSaved, _⟩, hmore, h⟩ := bind_ok_iff.mp h
    cases h
    rcases List.mem_append.mp hx with hx | hx
    · cases found with
      | found place m => exact .intro rfl turn hclaim hblock hx
      | missing =>
        cases hblock
        cases hx
      | unreadable field cause =>
        cases hblock
        cases hx
    · rw [List.append_cons]
      exact ih (turn.turn hclaim hblock) hmore hx

/-- **All turns**: what is saved was saved in one of them. -/
theorem memberNodes_saved {members actuals : List Message} {blocks : List Tree} {saved : Saved}
    {left : List (Nat × Message)}
    (h : memberNodes c keys type members (numbered actuals) = .ok (blocks, saved, left)) :
    x ∈ saved ↔ TurnSaves c keys type members actuals x := by
  constructor
  · exact turnSaves_of_later members (.start actuals) h
  · rintro ⟨rfl, turn, claimed, compared, mem⟩
    obtain ⟨_, own, hblock, _, hsub⟩ := memberNodes_claimed h turn claimed
    cases compared.symm.trans hblock
    exact hsub mem

/-- All groups: what is saved was saved in a turn of one of them. -/
theorem groupNodes_saved : ∀ {groups : List (String × List Message)} {nodes : List Tree}
    {saved : Saved}, groupNodes c keys groups actual = .ok (nodes, saved) →
    (x ∈ saved ↔ ∃ g ∈ groups, TurnSaves c keys g.1 g.2 (actual.members g.1) x)
  | [], nodes, saved, h => by
    rw [groupNodes] at h
    cases h
    refine iff_of_false List.not_mem_nil ?_
    rintro ⟨g, hg, -⟩
    cases hg
  | (type, members) :: rest, nodes, saved, h => by
    rw [groupNodes] at h
    obtain ⟨⟨blocks, own, left⟩, hmembers, h⟩ := bind_ok_iff.mp h
    obtain ⟨⟨more, moreSaved⟩, hrest, h⟩ := bind_ok_iff.mp h
    cases h
    rw [List.mem_append, memberNodes_saved hmembers, groupNodes_saved hrest, List.exists_mem_cons_iff]

/-- What is saved in a pair whose types match was saved of a pair that is claimed in it. -/
theorem compareGroups_claimed {children : List Tree} {saved : Saved}
    (types : TypesMatch expected actual)
    (h : compareGroups c keys expected.hasGroups expected.groups actual = .ok (children, saved)) :
    x ∈ saved ↔ ∃ step member found, Claims c keys expected actual step member found ∧
      ∃ block own, compareMember c keys step.type member found = .ok (block, own) ∧ x ∈ own := by
  rw [compareGroups] at h
  obtain ⟨⟨nodes, saved'⟩, hnodes, h⟩ := bind_ok_iff.mp h
  obtain rfl : saved' = saved := (Prod.mk.inj (Except.ok.inj h)).2
  rw [groupNodes_saved hnodes]
  constructor
  · rintro ⟨⟨type, members⟩, hg, split, turn, claimed, compared, mem⟩
    obtain rfl : members = _ := split
    exact ⟨_, _, _, .intro types hg turn claimed, _, _, compared, mem⟩
  · rintro ⟨_, _, _, ⟨_, group, turn, claimed⟩, _, _, compared, mem⟩
    exact ⟨_, group, .intro rfl turn claimed compared mem⟩

variable (c keys) in
/-- An entry is saved of a pair that is reached in the comparison of two messages: the fields of an
    actual message that was claimed in a group and has the expected type, under the name of its
    node. -/
def SavedPair (expected actual : Message) (x : String × List (String × String)) : Prop :=
  ∃ steps step e a, ComparedPair c keys expected actual (steps ++ [step]) e a ∧ TypesMatch e a ∧
    x = (nodeName step.type e, a.filledFields)

/-- A pair that is reached is claimed, or reached in a pair that is claimed. -/
theorem savedPair_iff : SavedPair c keys expected actual x ↔
    ∃ step member found, Claims c keys expected actual step member found ∧
      ((TypesMatch member found ∧ x = (nodeName step.type member, found.filledFields)) ∨
        SavedPair c keys member found x) := by
  constructor
  · rintro ⟨steps, step, e, a, pair, types, rfl⟩
    cases steps with
    | nil =>
      cases pair with
      | inner claims pair =>
        cases pair with
        | self => exact ⟨step, e, a, claims, .inl ⟨types, rfl⟩⟩
    | cons first rest =>
      cases pair with
      | inner claims pair => exact ⟨first, _, _, claims, .inr ⟨rest, step, e, a, pair, types, rfl⟩⟩
  · rintro ⟨step, member, found, claims, ⟨types, rfl⟩ | ⟨steps, last, e, a, pair, types, rfl⟩⟩
    · exact ⟨[], step, member, found, .inner claims (.self member found), types, rfl⟩
    · exact ⟨step :: steps, last, e, a, .inner claims pair, types, rfl⟩

/-- The groups of two messages save the entries of all pairs reached in them, if what each claimed
    pair saves is its own entry and those of the pairs reached in it. -/
theorem compareGroups_saved_of {children : List Tree} {saved : Saved}
    (types : TypesMatch expected actual)
    (h : compareGroups c keys expected.hasGroups expected.groups actual = .ok (children, saved))
    (hmembers : ∀ {step : Step} {member found : Message} {block : Tree} {own : Saved},
      Claims c keys expected actual step member found →
      compareMember c keys step.type member found = .ok (block, own) →
      (x ∈ own ↔ (TypesMatch member found ∧ x = (nodeName step.type member, found.filledFields)) ∨
        SavedPair c keys member found x)) :
    x ∈ saved ↔ SavedPair c keys expected actual x := by
  rw [compareGroups_claimed types h, savedPair_iff]
  refine exists_congr fun step => exists_congr fun member => exists_congr fun found =>
    and_congr_right fun claims => ?_
  constructor
  · rintro ⟨block, own, hblock, hx⟩
    exact (hmembers claims hblock).mp hx
  · intro hx
    obtain ⟨block, own, hblock, _⟩ := compareGroups_block h claims
    exact ⟨block, own, hblock, (hmembers claims hblock).mpr hx⟩

/-- **A pair of messages of a group** saves its own entry and those of all pairs reached in it. -/
theorem compareMember_saved (hsave : c.saveGroupFields = true) (e : Message) :
    ∀ {type : String} {a : Message} {block : Tree} {saved : Saved},
    compareMember c keys type e a = .ok (block, saved) →
    (x ∈ saved ↔ (TypesMatch e a ∧ x = (nodeName type e, a.filledFields)) ∨
      SavedPair c keys e a x) := by
  induction e using Message.induction with
  | step e ih =>
    intro type a block saved h
    rcases compareMember_ok h with ⟨types, _, _, rfl⟩ | ⟨types, _, own, _, hgroups, _, rfl⟩
    · refine iff_of_false List.not_mem_nil ?_
      rw [savedPair_iff]
      rintro (⟨h, _⟩ | ⟨_, _, _, claims, _⟩)
      · exact types h
      · exact types claims.types
    · rw [hsave, if_pos rfl, List.singleton_append, List.mem_cons, and_iff_right types]
      refine or_congr_right (compareGroups_saved_of types hgroups fun claims hblock => ?_)
      obtain ⟨_, group, _, _⟩ := claims
      exact ih _ group _ List.mem_append_cons_self hblock

/-- **The groups of two messages** save the entries of all pairs reached in them. -/
theorem compareGroups_saved (hsave : c.saveGroupFields = true) {children : List Tree}
    {saved : Saved} (types : TypesMatch expected actual)
    (h : compareGroups c keys expected.hasGroups expected.groups actual = .ok (children, saved)) :
    x ∈ saved ↔ SavedPair c keys expected actual x :=
  compareGroups_saved_of types h fun {_ member} _ _ _ _ hblock =>
    compareMember_saved hsave member hblock

/-! ## 3. Names -/

/-- The names of entries. -/
def savedNames (saved : Saved) : List (Option String) := saved.map fun x => some x.1

/-- The turns of a group save entries in the order of the expected messages. -/
theorem memberNodes_names {members : List Message} (hmembers : ∀ m ∈ members,
      ∀ {a : Message} {block : Tree} {own : Saved}, compareMember c keys type m a = .ok (block, own) →
        (savedNames own).Sublist ((m :: m.inner).map source)) :
    ∀ {all left : List (Nat × Message)} {blocks : List Tree} {saved : Saved},
    memberNodes c keys type members all = .ok (blocks, saved, left) →
    (savedNames saved).Sublist ((members.flatMap fun m => m :: m.inner).map source) := by
  induction members with
  | nil =>
    intro all left blocks saved h
    rw [memberNodes] at h
    cases h
    exact List.Sublist.slnil
  | cons member rest ih =>
    intro all left blocks saved h
    obtain ⟨hmember, hrest⟩ := List.forall_mem_cons.mp hmembers
    rw [memberNodes_cons] at h
    obtain ⟨found, _, h⟩ := bind_ok_iff.mp h
    obtain ⟨⟨block, own⟩, hblock, h⟩ := bind_ok_iff.mp h
    obtain ⟨⟨more, moreSaved, last⟩, hmore, h⟩ := bind_ok_iff.mp h
    cases h
    have hown : (savedNames own).Sublist ((member :: member.inner).map source) := by
      cases found with
      | found place m => exact hmember hblock
      | missing =>
        cases hblock
        exact List.nil_sublist _
      | unreadable field cause =>
        cases hblock
        exact List.nil_sublist _
    rw [List.flatMap_cons, List.map_append, savedNames, List.map_append]
    exact hown.append (ih hrest hmore)

/-- So do all groups of a message. -/
theorem groupNodes_names : ∀ {groups : List (String × List Message)}
    (_ : ∀ g ∈ groups, ∀ m ∈ g.2, ∀ {a : Message} {block : Tree} {own : Saved},
      compareMember c keys g.1 m a = .ok (block, own) →
        (savedNames own).Sublist ((m :: m.inner).map source))
    {nodes : List Tree} {saved : Saved}, groupNodes c keys groups actual = .ok (nodes, saved) →
    (savedNames saved).Sublist
      ((groups.flatMap fun g => g.2.flatMap fun m => m :: m.inner).map source)
  | [], _, nodes, saved, h => by
    rw [groupNodes] at h
    cases h
    exact List.Sublist.slnil
  | (type, members) :: rest, hgroups, nodes, saved, h => by
    obtain ⟨hfirst, hrest⟩ := List.forall_mem_cons.mp hgroups
    rw [groupNodes] at h
    obtain ⟨⟨blocks, own, left⟩, hmembers, h⟩ := bind_ok_iff.mp h
    obtain ⟨⟨more, moreSaved⟩, hmore, h⟩ := bind_ok_iff.mp h
    cases h
    rw [List.flatMap_cons, List.map_append, savedNames, List.map_append]
    exact (memberNodes_names hfirst hmembers).append (groupNodes_names hrest hmore)

/-- The groups of two messages save entries in the order of the expected ones, if each of these
    does. -/
theorem compareGroups_names_of (hmembers : ∀ g ∈ expected.groups, ∀ m ∈ g.2,
      ∀ {a : Message} {block : Tree} {own : Saved}, compareMember c keys g.1 m a = .ok (block, own) →
        (savedNames own).Sublist ((m :: m.inner).map source)) {children : List Tree} {saved : Saved}
    (h : compareGroups c keys expected.hasGroups expected.groups actual = .ok (children, saved)) :
    (savedNames saved).Sublist (expected.inner.map source) := by
  rw [compareGroups] at h
  obtain ⟨⟨nodes, saved'⟩, hnodes, h⟩ := bind_ok_iff.mp h
  obtain rfl : saved' = saved := (Prod.mk.inj (Except.ok.inj h)).2
  rw [inner_eq]
  exact groupNodes_names hmembers hnodes

/-- A message of a group stands among the inner ones, and so do those that are inner to it. -/
theorem mem_inner {g : String × List Message} {member : Message} (hg : g ∈ expected.groups)
    (hmember : member ∈ g.2) (he : e ∈ member :: member.inner) : e ∈ expected.inner := by
  rw [inner_eq]
  exact List.mem_flatMap.mpr ⟨g, hg, List.mem_flatMap.mpr ⟨member, hmember, he⟩⟩

/-- **A pair of messages of a group** saves entries under what the expected ones tell of where they
    come from, in their order. -/
theorem compareMember_names (hsave : c.saveGroupFields = true) (e : Message) :
    (∀ m ∈ e :: e.inner, isAbsentOrEmpty m.source = false) →
    ∀ {type : String} {a : Message} {block : Tree} {saved : Saved},
    compareMember c keys type e a = .ok (block, saved) →
    (savedNames saved).Sublist ((e :: e.inner).map source) := by
  induction e using Message.induction with
  | step e ih =>
    intro hfilled type a block saved h
    obtain ⟨hsource, hinner⟩ := List.forall_mem_cons.mp hfilled
    rcases compareMember_ok h with ⟨_, _, _, rfl⟩ | ⟨_, _, own, _, hgroups, _, rfl⟩
    · exact List.nil_sublist _
    · rw [hsave, if_pos rfl, List.singleton_append, savedNames, List.map_cons, List.map_cons,
        nodeName_of_source hsource type]
      refine List.Sublist.cons_cons _ (compareGroups_names_of (fun g hg m hm => ?_) hgroups)
      exact ih g hg m hm fun m' hm' => hinner m' (mem_inner hg hm hm')

/-- **The groups of two messages** save entries under what the expected ones tell of where they come
    from, each of them once. -/
theorem compareGroups_names (hsave : c.saveGroupFields = true) (hsources : DistinctSources expected)
    {children : List Tree} {saved : Saved}
    (h : compareGroups c keys expected.hasGroups expected.groups actual = .ok (children, saved)) :
    (Entries.names saved).Nodup := by
  have hsublist : (savedNames saved).Sublist (expected.inner.map source) :=
    compareGroups_names_of (fun g hg m hm => compareMember_names hsave m fun e he =>
      hsources.filled e (mem_inner hg hm he)) h
  have hnodup : (savedNames saved).Nodup := hsources.nodup.sublist hsublist
  have hnames : savedNames saved = (Entries.names saved).map some := (List.map_map).symm
  rw [hnames] at hnodup
  exact hnodup.of_map some

/-! ## 4. Pairs told apart -/

/-- In a concatenation without repetitions, parts that share an element are the same part. -/
theorem index_eq_of_flatMap {α β : Type} {f : α → List β} {l : List α} (h : (l.flatMap f).Nodup)
    {i j : Nat} {x y : α} {b : β} (hi : l[i]? = some x) (hj : l[j]? = some y) (hx : b ∈ f x)
    (hy : b ∈ f y) : i = j := by
  obtain ⟨hilt, rfl⟩ := List.getElem?_eq_some_iff.mp hi
  obtain ⟨hjlt, rfl⟩ := List.getElem?_eq_some_iff.mp hj
  have hdisjoint := List.pairwise_iff_getElem.mp (List.nodup_flatMap.mp h).2
  rcases Nat.lt_trichotomy i j with hlt | heq | hlt
  · exact absurd hy (hdisjoint i j hilt hjlt hlt hx)
  · exact heq
  · exact absurd hx (hdisjoint j i hjlt hilt hlt hy)

/-- A pair that is reached is about an expected message itself, or one that is inner to it. -/
theorem ComparedPair.mem {steps : List Step} (h : ComparedPair c keys expected actual steps e a) :
    e ∈ expected :: expected.inner := by
  induction h with
  | self expected actual => exact List.mem_cons_self
  | inner claims _ ih =>
    obtain ⟨_, group, _, _⟩ := claims
    exact List.mem_cons_of_mem _ (mem_inner group List.mem_append_cons_self ih)

/-- A pair that is reached by a step is about a message that is inner to the expected one. -/
theorem ComparedPair.mem_of_step {step : Step} {steps : List Step}
    (h : ComparedPair c keys expected actual (step :: steps) e a) : e ∈ expected.inner := by
  cases h with
  | inner claims pair =>
    obtain ⟨_, group, _, _⟩ := claims
    exact mem_inner group List.mem_append_cons_self pair.mem

variable {member member' found found' : Message} {step step' : Step}

/-- **Steps are told apart by sources**: where no source comes twice, only one step leads to an
    expected message with a given one or to a message around it. -/
theorem Claims.of_source (hnodup : (expected.inner.map source).Nodup)
    (h : Claims c keys expected actual step member found)
    (h' : Claims c keys expected actual step' member' found') {s : Option String}
    (hs : s ∈ (member :: member.inner).map source)
    (hs' : s ∈ (member' :: member'.inner).map source) :
    step = step' ∧ member = member' ∧ found = found' := by
  cases h with
  | @intro type before after _ _ left place _ group turn claimed =>
  cases h' with
  | @intro type' before' after' _ _ left' place' _ group' turn' claimed' =>
  simp only [inner_eq expected, List.map_flatMap] at hnodup
  -- the two groups are the same one
  have hgroup : s ∈ (before ++ member :: after).flatMap fun m => (m :: m.inner).map source :=
    List.mem_flatMap.mpr ⟨member, List.mem_append_cons_self, hs⟩
  have hgroup' : s ∈ (before' ++ member' :: after').flatMap fun m => (m :: m.inner).map source :=
    List.mem_flatMap.mpr ⟨member', List.mem_append_cons_self, hs'⟩
  obtain ⟨i, hi⟩ := List.mem_iff_getElem?.mp group
  obtain ⟨j, hj⟩ := List.mem_iff_getElem?.mp group'
  obtain rfl := index_eq_of_flatMap hnodup hi hj hgroup hgroup'
  obtain ⟨rfl, hmembers⟩ := Prod.mk.inj (Option.some.inj (hi.symm.trans hj))
  -- and so are the two expected messages in it
  have hmember : (before ++ member :: after)[before.length]? = some member := by
    rw [List.getElem?_append_right (Nat.le_refl _), Nat.sub_self]
    rfl
  have hmember' : (before ++ member :: after)[before'.length]? = some member' := by
    rw [hmembers, List.getElem?_append_right (Nat.le_refl _), Nat.sub_self]
    rfl
  have hlength := index_eq_of_flatMap ((List.nodup_flatMap.mp hnodup).1 _ group) hmember hmember'
    hs hs'
  obtain ⟨rfl, hrest⟩ := List.append_inj hmembers hlength
  obtain ⟨rfl, rfl⟩ := List.cons.inj hrest
  -- whatever one claim finds, the other one does
  obtain rfl := turn.unique turn'
  cases claimed.symm.trans claimed'
  exact ⟨rfl, rfl, rfl⟩

/-- Where no source comes twice, none does in a message that is claimed. -/
theorem Claims.nodup (hnodup : (expected.inner.map source).Nodup)
    (h : Claims c keys expected actual step member found) :
    ((member :: member.inner).map source).Nodup := by
  obtain ⟨_, group, _, _⟩ := h
  simp only [inner_eq expected, List.map_flatMap] at hnodup
  have hgroup := (List.nodup_flatMap.mp hnodup).1 _ group
  exact (List.nodup_flatMap.mp hgroup).1 member List.mem_append_cons_self

/-- **Pairs are told apart by sources**: where no source comes twice, only one pair that is reached
    is about an expected message with a given one. -/
theorem ComparedPair.of_source (steps : List Step) : ∀ {expected actual e a e' a' : Message}
    {step step' : Step} {steps' : List Step}, (expected.inner.map source).Nodup →
    ComparedPair c keys expected actual (step :: steps) e a →
    ComparedPair c keys expected actual (step' :: steps') e' a' → e.source = e'.source →
    step :: steps = step' :: steps' ∧ e = e' ∧ a = a' := by
  induction steps with
  | nil =>
    intro expected actual e a e' a' step step' steps' hnodup h h' hsource
    cases h with | inner claims pair =>
    cases h' with | inner claims' pair' =>
    obtain ⟨rfl, rfl, rfl⟩ := claims.of_source hnodup claims' (List.mem_map_of_mem pair.mem)
      (hsource ▸ List.mem_map_of_mem pair'.mem)
    have hmember := List.nodup_cons.mp (claims.nodup hnodup)
    cases pair with | self =>
    cases steps' with
    | nil =>
      cases pair' with | self =>
      exact ⟨rfl, rfl, rfl⟩
    | cons first rest =>
      exact absurd (hsource ▸ List.mem_map_of_mem pair'.mem_of_step) hmember.1
  | cons second steps ih =>
    intro expected actual e a e' a' step step' steps' hnodup h h' hsource
    cases h with | inner claims pair =>
    cases h' with | inner claims' pair' =>
    obtain ⟨rfl, rfl, rfl⟩ := claims.of_source hnodup claims' (List.mem_map_of_mem pair.mem)
      (hsource ▸ List.mem_map_of_mem pair'.mem)
    have hmember := List.nodup_cons.mp (claims.nodup hnodup)
    cases steps' with
    | nil =>
      cases pair' with | self =>
      exact absurd (hsource ▸ List.mem_map_of_mem pair.mem_of_step) hmember.1
    | cons first rest =>
      obtain ⟨hsteps, hsame⟩ := ih hmember.2 pair pair' hsource
      exact ⟨congrArg (step :: ·) hsteps, hsame⟩

/-! ## 5. Outputs -/

variable (c keys) in
/-- The outputs of a comparison of two messages, in two parts: what is saved of the two themselves,
    and the entries for messages of groups. There is an entry for each pair that was reached by
    claims and whose types match, with the fields of the actual message that are filled, under what
    the expected one tells of where it comes from; no other pair has that source, and there is
    nothing else. -/
structure OutputsAccount (expected actual : Message) (entries : Saved)
    (top groups : List (Value × Value)) (t : Tree) : Prop where
  outputs : t.outputs = top ++ groups
  entry : ∀ (name : String) (fields : List (String × String)), (name, fields) ∈ entries ↔
    ∃ steps e a, steps ≠ [] ∧ ComparedPair c keys expected actual steps e a ∧ TypesMatch e a ∧
      e.source = some name ∧ IsFilled a fields
  once : (Entries.names entries).Nodup
  pair : ∀ (steps steps' : List Step) (e a e' a' : Message), steps ≠ [] → steps' ≠ [] →
    ComparedPair c keys expected actual steps e a →
    ComparedPair c keys expected actual steps' e' a' → e.source = e'.source →
      steps = steps' ∧ e = e' ∧ a = a'
  groupsMissing : entries = [] → groups = []
  groupsSaved : entries ≠ [] → groups = [(.text "sub_fields",
    .record (entries.map fun (name, fields) => (name, textRecord fields)))]
  topSaved : c.saveFields = true → TypesMatch expected actual →
    ∃ fields, IsFilled actual fields ∧ top = [(.text "fields", textRecord fields)]
  topMissing : c.saveFields = false ∨ ¬ TypesMatch expected actual → top = []

/-- Steps lead to messages that are inner to the expected one. -/
theorem ComparedPair.mem_inner {steps : List Step} (hsteps : steps ≠ [])
    (h : ComparedPair c keys expected actual steps e a) : e ∈ expected.inner := by
  cases steps with
  | nil => exact absurd rfl hsteps
  | cons first rest => exact h.mem_of_step

/-- An entry is told by the source of its message. -/
theorem entry_iff (hsources : DistinctSources expected) {steps : List Step} (hsteps : steps ≠ [])
    (pair : ComparedPair c keys expected actual steps e a) (type : String) {name : String}
    {fields : List (String × String)} : (name, fields) = (nodeName type e, a.filledFields) ↔
      e.source = some name ∧ IsFilled a fields := by
  rw [Prod.mk.injEq, isFilled_iff,
    nodeName_of_source (hsources.filled e (pair.mem_inner hsteps)) type, Option.some_inj,
    eq_comm (a := name)]

/-- What is saved of a pair, said by the source of its message. -/
theorem savedPair_source_iff (hsources : DistinctSources expected) {name : String}
    {fields : List (String × String)} : SavedPair c keys expected actual (name, fields) ↔
      ∃ steps e a, steps ≠ [] ∧ ComparedPair c keys expected actual steps e a ∧ TypesMatch e a ∧
        e.source = some name ∧ IsFilled a fields := by
  constructor
  · rintro ⟨steps, step, e, a, pair, types, hentry⟩
    have hsteps := List.concat_ne_nil step steps
    exact ⟨_, e, a, hsteps, pair, types, (entry_iff hsources hsteps pair step.type).mp hentry⟩
  · rintro ⟨steps, e, a, hsteps, pair, types, hentry⟩
    obtain ⟨before, step, rfl⟩ := (List.eq_nil_or_concat' steps).resolve_left hsteps
    exact ⟨before, step, e, a, pair, types, (entry_iff hsources hsteps pair step.type).mpr hentry⟩

/-- Where no source comes twice, only one pair that is reached by claims has a given one. -/
theorem pair_of_source (hsources : DistinctSources expected) {steps steps' : List Step}
    {e' a' : Message} (hsteps : steps ≠ []) (hsteps' : steps' ≠ [])
    (pair : ComparedPair c keys expected actual steps e a)
    (pair' : ComparedPair c keys expected actual steps' e' a') (hsource : e.source = e'.source) :
    steps = steps' ∧ e = e' ∧ a = a' := by
  obtain ⟨step, rest, rfl⟩ := List.exists_cons_of_ne_nil hsteps
  obtain ⟨step', rest', rfl⟩ := List.exists_cons_of_ne_nil hsteps'
  exact ComparedPair.of_source rest hsources.nodup pair pair' hsource

/-- Two messages whose types do not match have no outputs. -/
theorem outputsAccount_of_failure (hsources : DistinctSources expected)
    (types : ¬ TypesMatch expected actual) {t : Tree} (houtputs : t.outputs = []) :
    OutputsAccount c keys expected actual [] [] [] t where
  outputs := houtputs
  entry name fields := by
    rw [← savedPair_source_iff hsources, savedPair_iff]
    refine iff_of_false List.not_mem_nil ?_
    rintro ⟨_, _, _, claims, _⟩
    exact types claims.types
  once := List.nodup_nil
  pair _ _ _ _ _ _ := pair_of_source hsources
  groupsMissing _ := rfl
  groupsSaved hne := absurd rfl hne
  topSaved _ h := absurd h types
  topMissing _ := rfl

/-- The outputs of two messages whose types match, from what their groups save. -/
theorem outputsAccount_of_groups (hsave : c.saveGroupFields = true)
    (hsources : DistinctSources expected) (types : TypesMatch expected actual)
    {children : List Tree} {saved : Saved}
    (h : compareGroups c keys expected.hasGroups expected.groups actual = .ok (children, saved))
    {t : Tree} (houtputs : t.outputs =
      outputs (if c.saveFields then some actual.filledFields else none) saved) :
    ∃ top groups, OutputsAccount c keys expected actual saved top groups t := by
  have hnodup := compareGroups_names hsave hsources h
  rw [outputs, Entries.ofList_of_nodup hnodup] at houtputs
  refine ⟨_, _, { outputs := houtputs, once := hnodup, entry := ?_, pair := ?_, groupsMissing := ?_
                  groupsSaved := ?_, topSaved := ?_, topMissing := ?_ }⟩
  · intro name fields
    rw [compareGroups_saved hsave types h, savedPair_source_iff hsources]
  · exact fun _ _ _ _ _ _ => pair_of_source hsources
  · rintro rfl
    rfl
  · intro hne
    rw [List.isEmpty_eq_false_iff.mpr hne, if_neg Bool.false_ne_true]
  · intro hfields _
    rw [hfields, if_pos rfl]
    exact ⟨actual.filledFields, isFilled_iff.mpr rfl, rfl⟩
  · rintro (hfields | hnot)
    · rw [hfields, if_neg Bool.false_ne_true]
      rfl
    · exact absurd types hnot

/-- **Saved outputs of messages of groups are complete.** Let the fields of such messages be saved,
    and let every message of a group of the expected one, at any depth, tell where it comes from, no
    two of them the same. When a comparison returns, its outputs have one entry for each of them
    that was reached, claimed an actual one, and passed the check of the types: the filled fields of
    the actual one under the source of the expected one. Where there is no such message nothing is
    put out for them; and the fields of the actual message itself are put out, if they are saved,
    exactly when its type matches. -/
theorem saved_fields_complete {given : Option (List (String × List String))} {t : Tree}
    (hsave : c.saveGroupFields = true) (hsources : DistinctSources expected)
    (h : compare c expected actual given = .ok t) :
    ∃ entries top groups,
      OutputsAccount c (given.getD c.groupKeyFields) expected actual entries top groups t := by
  rcases compare_ok h with ⟨types, _, houtputs⟩ | ⟨types, saved, hgroups, houtputs⟩
  · exact ⟨[], [], [], outputsAccount_of_failure hsources types houtputs⟩
  · exact ⟨saved, outputsAccount_of_groups hsave hsources types hgroups houtputs⟩

/-- A leg and a part in it that claim actual ones, a leg that is not found, and one that claims an
    actual one of another type: two entries, and the fields of the message itself. -/
theorem saved_fields_complete_legs :
    let c : Comparator := { saveFields := true, saveGroupFields := true }
    let part : Message := ⟨[("SubMsgSource", some "inner"), ("Account", some "A")], []⟩
    let leg : Message := ⟨[("SubMsgSource", some "first"), ("LegId", some "1")], [("Part", [part])]⟩
    let missing : Message := ⟨[("SubMsgSource", some "second"), ("LegId", some "2")], []⟩
    let swap : Message :=
      ⟨[("SubMsgSource", some "third"), ("LegId", some "3"), ("MsgType", some "Swap")], []⟩
    let expected : Message := ⟨[("Id", some "7")], [("Leg", [leg, missing, swap])]⟩
    let foundLeg : Message := ⟨[("LegId", some "1"), ("Amount", some "5"), ("Note", some "")],
      [("Part", [⟨[("Account", some "A")], []⟩])]⟩
    let actual : Message := ⟨[("Id", some "7"), ("Note", none)],
      [("Leg", [foundLeg, ⟨[("LegId", some "3"), ("MsgType", some "Bond")], []⟩])]⟩
    DistinctSources expected ∧ ∃ t entries top groups,
      compare c expected actual none = .ok t ∧
        OutputsAccount c c.groupKeyFields expected actual entries top groups t ∧
        t.outputs.map (fun output => output.2.entriesOf.length) = [1, 2] := by
  intro c part leg missing swap expected foundLeg actual
  have hsources : DistinctSources expected := by
    have hinner : expected.inner = [leg, part, missing, swap] := rfl
    refine ⟨?_, ?_⟩
    · rw [hinner]
      decide +kernel
    · rw [hinner]
      decide +kernel
  have houtputs : (compare c expected actual none).toOption.map (fun t =>
      t.outputs.map fun output => output.2.entriesOf.length) = some [1, 2] := by
    simp only [expected, leg, part, missing, swap, compare, compareGroups, groupNodes, memberNodes,
      compareMember]
    decide +kernel
  cases h : compare c expected actual none with
  | error b =>
    rw [h] at houtputs
    cases houtputs
  | ok t =>
    rw [h] at houtputs
    obtain ⟨entries, top, groups, haccount⟩ := saved_fields_complete rfl hsources h
    exact ⟨hsources, t, entries, top, groups, rfl, haccount, Option.some.inj houtputs⟩

end Reconcile.Message
