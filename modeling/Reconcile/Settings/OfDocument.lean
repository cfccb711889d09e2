import Reconcile.Settings.Parameters
import Reconcile.Settings.Stated

/-!
# Settings from documents

A settings file gives lists as lists and mappings as mappings. What is absent or empty leaves its
default. A document that was not checked against a schema may hold other things, and then perhaps
cannot be used at all.
-/

namespace Reconcile.Settings

open Reconcile.Document

/-- Why a document gives no settings: a value of it is wrong or has no text, or something is no
    list, no mapping or not made of pairs. -/
inductive DocumentFault where
  | setting (f : Fault)
  /-- an integer with too many digits to be shown -/
  | longNumber
  | notAList (key : String)
  | notAMapping (key : String)
  | notPairs
  | notAPair (place length : Nat)
  deriving DecidableEq, Repr

/-- The fault in words, for those that have some. -/
def DocumentFault.message? : DocumentFault → Option String
  | .setting f => some f.message
  | .longNumber => some Value.longNumberMessage
  | .notAPair place length => some
      s!"dictionary update sequence element #{place} has length {length}; 2 is required"
  | _ => none

/-- The value under a key, unless it is absent or empty. -/
def filled? (document : Value) (key : String) : Option Value :=
  (document.get? key).bind fun v => if v.isNothing then none else some v

/-- The parts of a value that is made of parts: the items of a list, the keys of a mapping, the
    characters of a text. -/
def partsOf? (v : Value) : Option (List Value) :=
  match v.opened with
  | .list xs | .set xs | .tuple xs => some xs
  | .map es => some (es.map (·.1))
  | .text s => some (s.toList.map fun c => .text c.toString)
  | .bytes bs => some (bs.map fun b => .int (Int.ofNat b))
  | _ => none

/-- The parts of a value, which must be made of parts. -/
def partsIn (key : String) (v : Value) : Except DocumentFault (List Value) :=
  match partsOf? v with
  | some parts => .ok parts
  | none => .error (.notAList key)

def partsAt (document : Value) (key : String) : Except DocumentFault (List Value) :=
  match filled? document key with
  | none => .ok []
  | some v => partsIn key v

/-- The entries of a mapping. -/
def entriesAt (document : Value) (key : String) :
    Except DocumentFault (List (Value × Value)) :=
  match filled? document key with
  | none => .ok []
  | some v => if v.isMapping then .ok v.entriesOf else .error (.notAMapping key)

/-- Whether a value can be a key. -/
def isKey : Value → Bool
  | .list _ | .map _ | .set _ | .labelled _ _ | .again _ _ => false
  | _ => true

/-- The pairs that values are, from a place on; each of them has a key. -/
def pairsFrom (place : Nat) : List Value → Except DocumentFault (List (Value × Value))
  | [] => .ok []
  | v :: rest => match partsOf? v with
    | some [a, b] =>
      if isKey a then do return (a, b) :: (← pairsFrom (place + 1) rest) else .error .notPairs
    | some parts => .error (.notAPair place parts.length)
    | none => .error .notPairs

/-- The entries of a mapping, or of a list of pairs. -/
def mappingAt (document : Value) (key : String) :
    Except DocumentFault (List (Value × Value)) :=
  match filled? document key with
  | none => .ok []
  | some v =>
    if v.isMapping then .ok v.entriesOf
    else match partsOf? v with
      | some parts => do
        return (← pairsFrom 0 parts).foldl (fun es p => Value.put es p.1 p.2) []
      | none => .error .notPairs

def orSetting {α : Type} (r : Except Fault α) : Except DocumentFault α := r.mapError .setting

/-- A value as text. -/
def textOf (v : Value) : Except DocumentFault String :=
  if v.isShowable then .ok v.plain else .error .longNumber

/-- A fault that names a value. -/
def naming (v : Value) (f : Fault) : DocumentFault :=
  if v.isShowable then .setting f else .longNumber

/-- A numeric column as a mapping gives it; nothing for the precision means zero. -/
def numericEntry (e : Value × Value) : Except DocumentFault (Value × Decimal) := do
  let text ← match e.2 with
    | .null => .ok "0"
    | v => textOf v
  return (e.1, ← (readPrecision e.1.plain text).mapError (naming e.1))

/-- The numeric columns, as a list of entries or as a mapping. -/
def numericAt (document : Value) (key : String) :
    Except DocumentFault (List (Value × Decimal)) :=
  match (filled? document key).map Value.opened with
  | some (.list xs) => do
    let entries ← xs.mapM textOf
    return (← orSetting (readNumericColumns entries)).map fun e => (.text e.1, e.2)
  | _ => do (← entriesAt document key).mapM numericEntry

def policyAt (document : Value) (key : String) : Except DocumentFault (Option ExtraPolicy) :=
  match document.get? key with
  | none | some .null => .ok none
  | some v => do orSetting (readPolicy (← textOf v))

def groupEntry (e : Value × Value) : Except DocumentFault (Value × List Value) := do
  return (e.1, ← partsIn e.1.plain e.2)

/-- What a document states. -/
def statedIn (document : Value) : Except DocumentFault Stated := do
  if !document.isMapping then throw (.notAMapping "")
  let numericColumns ← numericAt document "numeric_columns"
  let keyColumns ← partsAt document "key_columns"
  let columnMapping ← mappingAt document "column_mapping"
  let ignoreColumns ← partsAt document "ignore_columns"
  let infoColumns ← partsAt document "info_columns"
  let extraPolicy ← policyAt document "extra_policy"
  let groupKeyFields ← (← entriesAt document "group_key_fields").mapM groupEntry
  let serviceFields ← partsAt document "service_fields"
  let asStated (key : String) (default : Value) : Value := (document.get? key).getD default
  return {
    keyColumns, numericColumns, columnMapping, ignoreColumns, infoColumns, extraPolicy
    groupKeyFields, serviceFields
    caseSensitive := asStated "case_sensitive" (.bool true)
    checkDuplicates := asStated "check_duplicates" (.bool false)
    passed := asStated "max_passed_rows" (.int unlimited)
    failed := asStated "max_failed_rows" (.int unlimited)
    notFound := asStated "max_not_found_rows" (.int unlimited)
    extra := asStated "max_extra_rows" (.int unlimited) }

/-- The settings that a document asks for. -/
def ofDocument (document : Value) : Except DocumentFault Settings :=
  Stated.settings <$> statedIn document

end Reconcile.Settings
