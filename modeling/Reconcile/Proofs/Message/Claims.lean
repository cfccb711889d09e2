import Reconcile.Message.Claim

/-!
# What a claim finds

The actual messages that are left are looked at in their order, and the fields of each in theirs. A
message that matches in all fields is found; one that differs in a field after others that match is
passed over; and a malformed expectation after fields that match ends the search.

* `FieldsMatch`, `FieldsDiffer`, `FieldsUnreadable`: the three ways in which two messages compare;
* `allFieldsMatch_cases`: the check of the fields tells which one it is;
* `Claim.place?`, `Claim.Describes`, **`claim_describes`**: what a search found, said without the
  search.
-/

namespace Reconcile.Message

open Reconcile.Expectation

variable (expected actual : Message)

/-! ## 1. Fields -/

/-- All the fields match. -/
def FieldsMatch (fields : List String) : Prop :=
  ∀ name ∈ fields, fieldMatches expected actual name = .ok true

/-- Some field differs, and those before it match. -/
def FieldsDiffer (fields : List String) : Prop :=
  ∃ before name after, fields = before ++ name :: after ∧ FieldsMatch expected actual before ∧
    fieldMatches expected actual name = .ok false

/-- A field cannot be evaluated, and those before it match. -/
def FieldsUnreadable (fields : List String) (name : String) (cause : Cause) : Prop :=
  ∃ before after, fields = before ++ name :: after ∧ FieldsMatch expected actual before ∧
    fieldMatches expected actual name = .error (.malformed cause)

variable {expected actual}

theorem FieldsMatch.cons {name : String} {fields : List String}
    (hname : fieldMatches expected actual name = .ok true)
    (h : FieldsMatch expected actual fields) : FieldsMatch expected actual (name :: fields) :=
  List.forall_mem_cons.mpr ⟨hname, h⟩

variable (expected actual) in
/-- The check of the fields tells how the messages compare. -/
theorem allFieldsMatch_cases : ∀ fields : List String,
    match allFieldsMatch expected actual fields with
    | .ok true => FieldsMatch expected actual fields
    | .ok false => FieldsDiffer expected actual fields
    | .error (name, .malformed cause) => FieldsUnreadable expected actual fields name cause
    | .error (_, .breakdown _) => True
  | [] => fun _ h => absurd h List.not_mem_nil
  | name :: rest => by
    have ih := allFieldsMatch_cases rest
    unfold allFieldsMatch
    cases hname : fieldMatches expected actual name with
    | error f =>
      cases f with
      | malformed cause => exact ⟨[], rest, rfl, fun _ h => absurd h List.not_mem_nil, hname⟩
      | breakdown b => exact trivial
    | ok found =>
      cases found with
      | false => exact ⟨[], name, rest, rfl, fun _ h => absurd h List.not_mem_nil, hname⟩
      | true =>
        dsimp only
        cases hrest : allFieldsMatch expected actual rest with
        | ok found =>
          rw [hrest] at ih
          cases found with
          | true => exact ih.cons hname
          | false =>
            obtain ⟨before, field, after, rfl, hbefore, hfield⟩ := ih
            exact ⟨name :: before, field, after, rfl, hbefore.cons hname, hfield⟩
        | error f =>
          rw [hrest] at ih
          obtain ⟨field, cause | b⟩ := f
          · obtain ⟨before, after, rfl, hbefore, hfield⟩ := ih
            exact ⟨name :: before, after, rfl, hbefore.cons hname, hfield⟩
          · exact trivial

/-! ## 2. The search -/

/-- The place of the message that was found. -/
def Claim.place? : Claim → Option Nat
  | .found place _ => some place
  | .missing | .unreadable _ _ => none

/-- What was found among the messages that are left: the first that does not differ matches, none
    is there that does not differ, or the first that does not differ cannot be evaluated. -/
def Claim.Describes (expected : Message) (fields : List String) (left : List (Nat × Message)) :
    Claim → Prop
  | .found place m => ∃ before after, left = before ++ (place, m) :: after ∧
      (∀ q ∈ before, FieldsDiffer expected q.2 fields) ∧ FieldsMatch expected m fields
  | .missing => ∀ q ∈ left, FieldsDiffer expected q.2 fields
  | .unreadable name cause => ∃ before q after, left = before ++ q :: after ∧
      (∀ q ∈ before, FieldsDiffer expected q.2 fields) ∧
      FieldsUnreadable expected q.2 fields name cause

/-- One more message that differs does not change what is found after it. -/
theorem Claim.Describes.cons {fields : List String} {left : List (Nat × Message)}
    {q : Nat × Message} (hq : FieldsDiffer expected q.2 fields) {found : Claim}
    (h : found.Describes expected fields left) : found.Describes expected fields (q :: left) := by
  cases found with
  | found place m =>
    obtain ⟨before, after, rfl, hbefore, hm⟩ := h
    exact ⟨q :: before, after, rfl, List.forall_mem_cons.mpr ⟨hq, hbefore⟩, hm⟩
  | missing => exact List.forall_mem_cons.mpr ⟨hq, h⟩
  | unreadable name cause =>
    obtain ⟨before, p, after, rfl, hbefore, hp⟩ := h
    exact ⟨q :: before, p, after, rfl, List.forall_mem_cons.mpr ⟨hq, hbefore⟩, hp⟩

/-- **A search that returns finds the first message that does not differ.** -/
theorem claim_describes {fields : List String} : ∀ {left : List (Nat × Message)} {found : Claim},
    claim fields expected left = .ok found → found.Describes expected fields left
  | [], found, h => by
    obtain rfl : Claim.missing = found := Except.ok.inj h
    exact fun _ hq => absurd hq List.not_mem_nil
  | (place, m) :: rest, found, h => by
    have hfields := allFieldsMatch_cases expected m fields
    unfold claim at h
    cases hmatches : allFieldsMatch expected m fields with
    | ok matches? =>
      rw [hmatches] at h hfields
      cases matches? with
      | true =>
        obtain rfl := Except.ok.inj h
        exact ⟨[], rest, rfl, fun _ hq => absurd hq List.not_mem_nil, hfields⟩
      | false => exact (claim_describes h).cons hfields
    | error f =>
      rw [hmatches] at h hfields
      obtain ⟨name, cause | b⟩ := f
      · obtain rfl := Except.ok.inj h
        exact ⟨[], (place, m), rest, rfl, fun _ hq => absurd hq List.not_mem_nil, hfields⟩
      · cases h

end Reconcile.Message
