import Reconcile.Expectation.Check
import Reconcile.Message.Basic

/-!
# Claims

Every expected message of a repeating group claims the first actual one left whose key fields
match. Without key fields all fields but the service fields count. A key field that the expected
message does not fill matches anything, and a malformed expectation ends the search.
-/

namespace Reconcile.Message

open Reconcile.Expectation

/-- What an expected message found among the actual ones that are left. -/
inductive Claim where
  | found (place : Nat) (m : Message)
  | missing
  | unreadable (field : String) (cause : Cause)
  deriving Inhabited

/-- The text of the error of a claim. -/
def claimError (field : String) (cause : Cause) : String :=
  "Error while checking key field '" ++ field ++ "': " ++ cause.message

/-- The fields that a message is claimed by. -/
def claimFields (service : List String) (keys : Option (List String)) (expected : Message) :
    List String :=
  match keys with
  | some (k :: ks) => k :: ks
  | _ => expected.fieldNames.filter fun n => !service.contains n

/-- Whether a field matches; what is not filled on the expected side matches anything. -/
def fieldMatches (expected actual : Message) (name : String) : Except Fault Bool :=
  let value := expected.field name
  if isAbsentOrEmpty value then .ok true else accepts value (actual.field name)

/-- Whether all fields match: no field after the first that does not is looked at. A fault comes
    with the field it belongs to. -/
def allFieldsMatch (expected actual : Message) : List String → Except (String × Fault) Bool
  | [] => .ok true
  | name :: rest => match fieldMatches expected actual name with
    | .ok true => allFieldsMatch expected actual rest
    | .ok false => .ok false
    | .error f => .error (name, f)

/-- Looks for the first message left that matches on the given fields. -/
def claim (fields : List String) (expected : Message) :
    List (Nat × Message) → Except Breakdown Claim
  | [] => .ok .missing
  | (place, m) :: rest => match allFieldsMatch expected m fields with
    | .ok true => .ok (.found place m)
    | .ok false => claim fields expected rest
    | .error (name, .malformed c) => .ok (.unreadable name c)
    | .error (_, .breakdown b) => .error b

end Reconcile.Message
