import Reconcile.Document.Entries
import Reconcile.Text.Quoted

/-!
# Messages

A message has named fields and, for each type of repeating group, a list of further messages. Both
keep the order in which their names first came. The value of a field may be absent.
-/

namespace Reconcile

open Reconcile.Text

/-- A message with its fields and its repeating groups. -/
structure Message where
  fields : List (String × Option String) := []
  groups : List (String × List Message) := []
  deriving Inhabited

namespace Message

/-! ## 1. Parts -/

/-- The field with the type of a message. -/
def typeField : String := "MsgType"

/-- The field with the type of a message of a group. -/
def groupTypeField : String := "SubMsgType"

/-- The field that tells where a message of a group comes from. -/
def sourceField : String := "SubMsgSource"

/-- The fields that route a message and say nothing about its content. -/
def routingFields : List String := [typeField, groupTypeField, sourceField]

/-- The message with the given fields; of several values for one name the last counts. -/
def ofFields (fields : List (String × Option String)) : Message :=
  { fields := Entries.ofList fields }

def field (m : Message) (name : String) : Option String := (m.fields.lookup name).join

def fieldNames (m : Message) : List String := Entries.names m.fields

/-- The messages of a group type. -/
def members (m : Message) (type : String) : List Message := (m.groups.lookup type).getD []

def groupTypes (m : Message) : List String := Entries.names m.groups

def hasGroups (m : Message) : Bool := m.groups.any fun g => !g.2.isEmpty

/-- Puts a message at the end of a group. -/
def add (m : Message) (type : String) (member : Message) : Message :=
  { m with groups := Entries.put type (m.members type ++ [member]) m.groups }

/-- The fields that have a value that is not empty. -/
def filledFields (m : Message) : List (String × String) :=
  m.fields.filterMap fun (name, value) => match value with
    | some v => if v.isEmpty then none else some (name, v)
    | none => none

/-- The message as it is shown: its fields, and the sizes of its groups. -/
def shown (m : Message) : String :=
  "Message(fields=" ++ braced (m.fields.map fun (n, v) => (quoted n, quotedOption v)) ++
    ", groups=" ++ braced (m.groups.map fun (t, ms) => (quoted t, toString ms.length)) ++ ")"

/-! ## 2. Induction -/

/-- What holds of a message whenever it holds of all messages of its groups holds of every message. -/
@[elab_as_elim]
theorem induction {motive : Message → Prop}
    (step : ∀ m, (∀ g ∈ m.groups, ∀ e ∈ g.2, motive e) → motive m) (m : Message) : motive m :=
  step m fun g hg e he => by
    have hmember := List.sizeOf_lt_of_mem he
    have hgroup := List.sizeOf_lt_of_mem hg
    have : sizeOf e < sizeOf m := by
      obtain ⟨fields, groups⟩ := m
      obtain ⟨type, members⟩ := g
      simp only [Message.mk.sizeOf_spec, Prod.mk.sizeOf_spec] at hmember hgroup ⊢
      omega
    exact induction step e
termination_by sizeOf m

/-! ## 3. Well-formed messages -/

/-- No field and no group type comes twice, in a message or in any message of its groups. -/
inductive WellFormed : Message → Prop where
  | intro {fields : List (String × Option String)} {groups : List (String × List Message)}
      (names : (Entries.names fields).Nodup) (types : (Entries.names groups).Nodup)
      (members : ∀ g ∈ groups, ∀ m ∈ g.2, WellFormed m) : WellFormed ⟨fields, groups⟩

theorem wellFormed_ofFields (fields : List (String × Option String)) :
    (ofFields fields).WellFormed :=
  .intro (Entries.nodup_names_ofList fields) List.nodup_nil fun _ hg => absurd hg List.not_mem_nil

theorem WellFormed.of_mem {m : Message} (h : m.WellFormed) {g : String × List Message}
    (hg : g ∈ m.groups) {e : Message} (he : e ∈ g.2) : e.WellFormed := by
  obtain ⟨_, _, members⟩ := h
  exact members g hg e he

/-- The messages of a group type are those of its group. -/
theorem WellFormed.members_eq {m : Message} (h : m.WellFormed) {g : String × List Message}
    (hg : g ∈ m.groups) : m.members g.1 = g.2 := by
  obtain ⟨_, types, _⟩ := h
  rw [members, Entries.lookup_of_nodup types hg, Option.getD_some]

/-- A message of a group type stands in the group of that type. -/
theorem mem_group_of_mem_members {m e : Message} {type : String} (h : e ∈ m.members type) :
    ∃ g ∈ m.groups, e ∈ g.2 := by
  unfold members at h
  cases hlookup : m.groups.lookup type with
  | none =>
    rw [hlookup] at h
    cases h
  | some group =>
    rw [hlookup] at h
    exact ⟨(type, group), Entries.mem_of_lookup hlookup, h⟩

/-- A message that gets a well-formed one more stays well-formed. -/
theorem WellFormed.add {m member : Message} (h : m.WellFormed) (hmember : member.WellFormed)
    (type : String) : (m.add type member).WellFormed := by
  obtain ⟨names, types, members⟩ := h
  refine .intro names (Entries.nodup_names_put types type _) fun g hg e he => ?_
  rcases Entries.mem_put hg with rfl | hg
  · rcases List.mem_append.mp he with he | he
    · obtain ⟨g, hg, he⟩ := mem_group_of_mem_members he
      exact members g hg e he
    · obtain rfl := List.mem_singleton.mp he
      exact hmember
  · exact members g hg e he

end Message

end Reconcile
