import Reconcile.Message.Comparison
import Reconcile.Proofs.Expectation.Breakdown
import Reconcile.Proofs.Traversal

/-!
# When a comparison of messages returns

Fields of an expected message are evaluated against whatever the actual message holds under the
same name: its type, its own fields, and the fields that its groups are claimed by. A comparison
returns when no field breaks its evaluation off, in the message or in any message of its groups.

* `Stands`, `AllStand`: nothing that a value, or a message, holds breaks off;
* `claim_returns`, `fieldLeaves_returns`: the parts of a comparison;
* `compareMember_returns`: a message of a group, by induction on the expected message;
* **`compare_returns`**: a whole comparison.
-/

namespace Reconcile.Message

open Reconcile.Diff Reconcile.Expectation

/-! ## 1. Fields that stand -/

/-- An expected value breaks off with no actual value. -/
def Stands (expected : Option String) : Prop :=
  ∀ actual, (Expression.ofCell expected).breaksOff actual = false

/-- The values of a message, and of all messages of its groups, stand. -/
inductive AllStand : Message → Prop where
  | intro {fields : List (String × Option String)} {groups : List (String × List Message)}
      (values : ∀ f ∈ fields, Stands f.2) (members : ∀ g ∈ groups, ∀ m ∈ g.2, AllStand m) :
      AllStand ⟨fields, groups⟩

variable {expected actual : Message}

theorem AllStand.of_mem_fields (h : AllStand expected) {f : String × Option String}
    (hf : f ∈ expected.fields) : Stands f.2 := by
  cases h with
  | intro values _ => exact values f hf

theorem AllStand.field (h : AllStand expected) (name : String) : Stands (expected.field name) := by
  unfold Message.field
  cases hlookup : expected.fields.lookup name with
  | none => exact fun _ => rfl
  | some value =>
    exact h.of_mem_fields (Entries.mem_of_lookup hlookup)

/-- What stands is evaluated, or malformed. -/
theorem Stands.accepts {value : Option String} (h : Stands value) (actual : Option String)
    (caseSensitive : Bool) (b : Breakdown) :
    accepts value actual caseSensitive ≠ .error (.breakdown b) := fun hbreaks => by
  have hbroken := (accepts_breaksOff_iff (Expression.ofCell value) actual caseSensitive).mp
    ⟨b, hbreaks⟩
  exact Bool.false_ne_true ((h actual).symm.trans hbroken)

/-! ## 2. Parts of a comparison -/

theorem typeFailure_returns (h : AllStand expected) (name : String) (actual : Message) :
    ∃ failure, typeFailure name expected actual = .ok failure := by
  unfold typeFailure
  dsimp only
  split
  · exact ⟨_, rfl⟩
  · cases haccepts : accepts (expected.field typeField) (actual.field typeField) with
    | ok b => cases b <;> exact ⟨_, rfl⟩
    | error f =>
      cases f with
      | malformed c => exact ⟨_, rfl⟩
      | breakdown b => exact absurd haccepts ((h.field typeField).accepts _ _ b)

theorem fieldLeaves_returns (h : AllStand expected) (skipped : List String) (actual : Message) :
    ∃ leaves, fieldLeaves skipped expected actual = .ok leaves :=
  mapM_returns_iff.mpr fun n _ =>
    (check_returns_iff n _ _ _ _).mpr (.inr (h.field n (actual.field n)))

theorem allFieldsMatch_returns (h : AllStand expected) (actual : Message) :
    ∀ (fields : List String) (name : String) (b : Breakdown),
      allFieldsMatch expected actual fields ≠ .error (name, .breakdown b)
  | [], _, _ => nofun
  | field :: rest, name, b => by
    unfold allFieldsMatch
    have hfield : ∀ b, fieldMatches expected actual field ≠ .error (.breakdown b) := fun b => by
      unfold fieldMatches
      dsimp only
      split
      · exact nofun
      · exact (h.field field).accepts _ _ b
    cases hmatches : fieldMatches expected actual field with
    | ok found =>
      cases found with
      | false => exact nofun
      | true => exact allFieldsMatch_returns h actual rest name b
    | error f =>
      rintro hbreaks
      cases hbreaks
      exact hfield b hmatches

theorem claim_returns (h : AllStand expected) (fields : List String) :
    ∀ left : List (Nat × Message), ∃ found, claim fields expected left = .ok found
  | [] => ⟨.missing, rfl⟩
  | (place, m) :: rest => by
    unfold claim
    cases hmatches : allFieldsMatch expected m fields with
    | ok found =>
      cases found with
      | true => exact ⟨_, rfl⟩
      | false => exact claim_returns h fields rest
    | error f =>
      obtain ⟨name, c | b⟩ := f
      · exact ⟨_, rfl⟩
      · exact absurd hmatches (allFieldsMatch_returns h m fields name b)

/-! ## 3. Groups -/

variable (c : Comparator) (keys : List (String × List String))

/-- A group can be compared when each of its expected messages can, to whatever it claims. -/
theorem memberNodes_returns (type : String) : ∀ (members : List Message),
    (∀ m ∈ members, AllStand m) →
    (∀ m ∈ members, ∀ actual, ∃ r, compareMember c keys type m actual = .ok r) →
    ∀ left, ∃ r, memberNodes c keys type members left = .ok r
  | [], _, _, left => ⟨([], [], left), by rw [memberNodes]; rfl⟩
  | expected :: rest, hstand, hmembers, left => by
    obtain ⟨hexpected, hrest⟩ := List.forall_mem_cons.mp hstand
    obtain ⟨hmember, hmore⟩ := List.forall_mem_cons.mp hmembers
    have ih := memberNodes_returns type rest hrest hmore
    rw [memberNodes]
    refine bind_returns (claim_returns hexpected _ left) fun found => ?_
    cases found with
    | found place m =>
      exact bind_returns (hmember m) fun _ => bind_returns (ih _) fun _ => ⟨_, rfl⟩
    | missing => exact bind_returns (ih left) fun _ => ⟨_, rfl⟩
    | unreadable field cause => exact bind_returns (ih left) fun _ => ⟨_, rfl⟩

/-- Groups can be compared when each of them can. -/
theorem groupNodes_returns (actual : Message) : ∀ (groups : List (String × List Message)),
    (∀ g ∈ groups, ∀ m ∈ g.2, AllStand m) →
    (∀ g ∈ groups, ∀ m ∈ g.2, ∀ type actual, ∃ r, compareMember c keys type m actual = .ok r) →
    ∃ r, groupNodes c keys groups actual = .ok r
  | [], _, _ => ⟨([], []), by rw [groupNodes]; rfl⟩
  | (type, members) :: rest, hstand, hmembers => by
    obtain ⟨hgroup, hrest⟩ := List.forall_mem_cons.mp hstand
    obtain ⟨hmember, hmore⟩ := List.forall_mem_cons.mp hmembers
    rw [groupNodes]
    refine bind_returns (memberNodes_returns c keys type members hgroup (hmember · · type) _) ?_
    exact fun _ => bind_returns (groupNodes_returns actual rest hrest hmore) fun _ => ⟨_, rfl⟩

theorem compareGroups_returns (wanted : Bool) {groups : List (String × List Message)}
    (hstand : ∀ g ∈ groups, ∀ m ∈ g.2, AllStand m)
    (hmembers : ∀ g ∈ groups, ∀ m ∈ g.2, ∀ type actual,
      ∃ r, compareMember c keys type m actual = .ok r) (actual : Message) :
    ∃ r, compareGroups c keys wanted groups actual = .ok r := by
  rw [compareGroups]
  exact bind_returns (groupNodes_returns c keys actual groups hstand hmembers) fun _ => ⟨_, rfl⟩

/-- **A message of a group can be compared** to whatever it claims, with all its own groups. -/
theorem compareMember_returns (h : AllStand expected) : ∀ (type : String) (actual : Message),
    ∃ r, compareMember c keys type expected actual = .ok r := by
  -- on the expected message: the actual one only follows
  induction h with
  | intro values members ih =>
    intro type actual
    have hself := AllStand.intro values members
    rw [compareMember]
    refine bind_returns (typeFailure_returns hself _ actual) fun failure => ?_
    cases failure with
    | some failure => exact ⟨_, rfl⟩
    | none =>
      exact bind_returns (fieldLeaves_returns hself c.skipped actual) fun _ =>
        bind_returns (compareGroups_returns c keys _ members ih actual) fun _ => ⟨_, rfl⟩

/-! ## 4. A run -/

/-- **A comparison of messages returns** when nothing that the expected message holds breaks off. -/
theorem compare_returns (h : AllStand expected) (actual : Message)
    (keys : Option (List (String × List String))) :
    ∃ t, compare c expected actual keys = .ok t := by
  obtain ⟨values, members⟩ := h
  have hself := AllStand.intro values members
  unfold compare
  refine bind_returns (typeFailure_returns hself _ actual) fun failure => ?_
  cases failure with
  | some failure => exact ⟨_, rfl⟩
  | none =>
    exact bind_returns (fieldLeaves_returns hself c.skipped actual) fun _ =>
      bind_returns (compareGroups_returns c _ _ members
        (fun g hg m hm => compareMember_returns c _ (members g hg m hm)) actual) fun _ => ⟨_, rfl⟩

end Reconcile.Message
