import Reconcile.Pattern.Matcher
import Reconcile.Pattern.Reader
import Reconcile.Schema.Findings

/-!
# Checking documents

What is found in a value under a schema, in the order of the rules. A rule that refers to a schema by
a name leaves it to `refer` what is known of that schema; this way the check goes down the schema,
and only references can lead back up.
-/

namespace Reconcile.Schema

open Reconcile.Document

/-! ## 1. Entries -/

/-- The items of a list with their places. -/
def placesOf (v : Value) : List (Value × Value) :=
  v.itemsOf.zipIdx.map fun (x, n) => (.int (Int.ofNat n), x)

/-- Whether one of some patterns occurs in a key. They can only be looked for in a text. -/
def occurIn (patterns : List Expected) (key : Value) : Except Breakdown Bool :=
  match patterns, key with
  | [], _ => .ok false
  | _, .text s => .ok (patterns.any fun e => e.pattern.occursIn s)
  | _, _ => .error .keyNoText

/-- The entries whose keys are neither known nor hold one of the patterns. -/
def othersAmong (known : List String) (patterns : List Expected) :
    List (Value × Value) → Except Breakdown (List (Value × Value))
  | [] => .ok []
  | e :: rest => do
    if known.any fun name => e.1 == .text name then othersAmong known patterns rest
    else if ← occurIn patterns e.1 then othersAmong known patterns rest
    else return e :: (← othersAmong known patterns rest)

def otherEntries (known : List String) (patterns : List Expected) (v : Value) :
    Except Breakdown (List (Value × Value)) :=
  othersAmong known patterns v.entriesOf

/-- The length of a value by a measure, when the measure is one for values of its kind. -/
def lengthBy? (m : Measure) (v : Value) : Option Nat :=
  match m, v.bare with
  | .characters, .text s => some s.length
  | .items, .list xs => some xs.length
  | .entries, .map es => some es.length
  | _, _ => none

/-- Whether a number keeps a bound. -/
def Bound.keeps (side : Bound) (limit v : Value) : Bool :=
  match side, orderOf? v limit with
  | .least, some .lt | .most, some .gt => false
  | .above, some .lt | .above, some .eq => false
  | .below, some .gt | .below, some .eq => false
  | _, _ => true

/-- Whether a whole number of times one decimal is another. -/
def dividesExactly (a b : Decimal) : Bool :=
  let e := min a.exponent b.exponent
  b.scaledTo e != 0 && a.scaledTo e % b.scaledTo e == 0

/-- Whether a number is a whole number of times a binary number. The quotient is a binary number as
    well, unless it is too large. -/
def isBinaryMultiple (v : Value) (d : Float) : Except Breakdown Bool :=
  match v.number? with
  | none => .error (if (rank? v).isNone || d.isNaN || d.isInf then .notANumber else .tooLarge)
  | some a =>
    let x := a.toBinary
    if x.isInf then .error .tooLarge
    else if d.isNaN then .error .notANumber
    else if (x / d).isInf then .ok (dividesExactly a (Decimal.ofBinary d))
    else .ok ((Value.float (x / d)).number?.any isWhole)

/-- Whether a whole number of times the divisor is a number. -/
def isMultiple (v divisor : Value) : Except Breakdown Bool :=
  match divisor, v.number?, divisor.number? with
  | .float d, _, _ => isBinaryMultiple v d
  | _, some a, some b => .ok (dividesExactly a b)
  | _, _, _ => .ok false

/-- Whether a text is a pattern; other values need not be one. -/
def isPatternText : Value → Except Breakdown Bool
  | .text s => match Pattern.read s.toList with
    | .ok _ => .ok true
    | .error f => match f with
      | .malformed _ _ => .ok false
      | f => .error (.patternLimit f)
  | _ => .ok true

/-- The texts by which a name is known, sorted by the characters of what they show as. -/
def inOrder (names : List Value) : List Value :=
  names.mergeSort fun a b => a.plain ≤ b.plain

/-- A name in its place among names that are in order. -/
def insertName (name : Value) : List Value → Option (List Value)
  | [] => some [name]
  | n :: rest => do
    match ← Failure.stepOrder? name n with
    | .lt => some (name :: n :: rest)
    | _ => return n :: (← insertName name rest)

/-- Names in the order of their values, if they have one. -/
def sorted (names : List Value) : Except Breakdown (List Value) :=
  Findings.orUnordered (names.foldlM (fun before name => insertName name before) [])

/-! ## 2. Rules without parts -/

/-- A failure of a value beside the kinds that are asked for. -/
def failureOf (asked : Option (List Kind)) (v : Value) (cause : Cause)
    (alternatives : List Failure := []) : Failure :=
  { cause, value := v, isOfKind := (asked.getD []).any (·.has v), alternatives }

/-- What is wrong with a value under a rule that has no schemas for parts. -/
def plainCauses : Schema → Value → Except Breakdown (List Cause)
  | .never, _ => .ok [.notAllowed]
  | .kinds ks, v => .ok (if ks.any (·.has v) then [] else [.wrongKind ks])
  | .listed vs, v => .ok (if vs.any (alike v) then [] else [.notListed vs])
  | .constant c, v => .ok (if alike v c then [] else [.notConstant c])
  | .bounded side limit, v =>
    .ok (if !Kind.number.has v || side.keeps limit v then [] else [.outOfBounds side limit])
  | .multipleOf d, v => do
    if !Kind.number.has v then return []
    return if ← isMultiple v d then [] else [.notMultiple d]
  | .atLeast m n, v => .ok (if (lengthBy? m v).any (· < n) then [.tooFew m n] else [])
  | .atMost m n, v => .ok (if (lengthBy? m v).any (n < ·) then [.tooMany m n] else [])
  | .holding e, .text s => .ok (if e.pattern.occursIn s then [] else [.noMatch e.text])
  | .aPattern, v => do return if ← isPatternText v then [] else [.noPattern]
  | .distinct, v => match areDistinct? v.itemsOf with
    | some isDistinct => .ok (if isDistinct then [] else [.notDistinct])
    | none => .error .endless
  | .noItems n, v =>
    .ok (if v.itemsOf.length ≤ n then [] else [.moreItems n (v.itemsOf.drop n)])
  | .noFurtherItems n, v =>
    .ok (if v.itemsOf.length ≤ n then [] else [.furtherItems (v.itemsOf.drop n)])
  | .noOtherProperties known patterns, v => do
    match (← otherEntries known (patterns.getD []) v).map (·.1), patterns with
    | [], _ => return []
    | names, none => return [.otherNames (inOrder names)]
    | names, some ps =>
      return [.unmatchedNames (← sorted names) ((ps.map (·.text)).mergeSort (· ≤ ·))]
  | .required names, v =>
    .ok (if Kind.object.has v then (names.filter fun n => (v.get? n).isNone).map .missing else [])
  | .requiredWith names, v =>
    .ok (names.flatMap fun (key, others) =>
      if (v.get? key).isSome then
        (others.filter fun n => (v.get? n).isNone).map (.missingWith · key)
      else [])
  | _, _ => .ok []

/-! ## 3. All rules -/

/-- What is known by the names of schemas: what is found in a value, and the steps into it behind
    which the schema looks. -/
structure Referral where
  findings : String → Value → Findings := fun name _ => .brokenOff (.unresolved name)
  seen : String → Value → Except Breakdown (List Value) := fun name _ => .error (.unresolved name)

/-- What is found in the items of a list from a place on, by a check for each of them. -/
def itemFindings (check : Value → Findings) (place : Nat) : List Value → Findings
  | [] => {}
  | x :: rest => (check x).behind (.int place) ++ itemFindings check (place + 1) rest

/-- What is found in the values of entries, by a check for each of them. -/
def entryFindings (check : Value → Findings) (entries : List (Value × Value)) : Findings :=
  .ofEach (fun e => (check e.2).behind e.1) entries

/-- What is found in the values of those entries in whose keys a pattern occurs. -/
def matchingFindings (check : Value → Findings) (e : Expected) (entries : List (Value × Value)) :
    Findings :=
  .ofEach (fun x => .ofExcept do
    return if ← occurIn [e] x.1 then (check x.2).behind x.1 else {}) entries

/-- Whether one of some values is accepted; those behind it are not looked at. -/
def someAccepted (check : Value → Findings) : List Value → Except Breakdown Bool
  | [] => .ok false
  | x :: rest => do if ← (check x).accepts then return true else someAccepted check rest

/-- How many of some values are accepted, up to one more than the most. -/
def countAccepted (check : Value → Findings) (most : Option Nat) (found : Nat) :
    List Value → Except Breakdown Nat
  | [] => .ok found
  | x :: rest => do
    let found := if ← (check x).accepts then found + 1 else found
    if most.any (· < found) then return found else countAccepted check most found rest

/-- The first parts of those pairs whose second part is accepted, or of those that are not. -/
def chosenSteps (check : Value → Findings) (accepted : Bool) :
    List (Value × Value) → Except Breakdown (List Value)
  | [] => .ok []
  | e :: rest => do
    let accepts ← (check e.2).accepts
    let others ← chosenSteps check accepted rest
    return if accepts == accepted then e.1 :: others else others

/-- The keys of entries, each as often as there are failures of its value. -/
def failingKeys (check : Value → Findings) :
    List (Value × Value) → Except Breakdown (List Value)
  | [] => .ok []
  | e :: rest => do
    let found ← (check e.2).all
    return found.map (fun _ => e.1) ++ (← failingKeys check rest)

/-- What is wrong with a list for the number of its accepted items. -/
def countCauses (least : Nat) (most : Option Nat) (found : Nat) : List Cause :=
  match most.filter (· < found) with
  | some m => [.tooManySuchItems m]
  | none =>
    if least ≤ found then []
    else if found == 0 then [.noSuchItem]
    else [.tooFewSuchItems least found]

/-- The causes as failures of a value. -/
def ofCauses (asked : Option (List Kind)) (v : Value) (causes : List Cause) : Findings :=
  .ofEach (fun cause => .ofFailure (failureOf asked v cause)) causes

mutual

/-- What is found in a value under a schema. The kinds are those that are asked for beside it. -/
def findings (refer : Referral) (asked : Option (List Kind)) : Schema → Value → Findings
  | .all rules, v => findingsOfAll refer (kindsAmong rules) rules v
  | .leading schemas, v => findingsOfLeading refer 0 schemas v.itemsOf
  | .items start s, v => itemFindings (findings refer none s) start (v.itemsOf.drop start)
  | .someItem s, v => .ofExcept do
    if !Kind.array.has v then return {}
    return ofCauses asked v
      (if ← someAccepted (findings refer none s) v.itemsOf then [] else [.noItemAccepted])
  | .countedItems s least most, v => .ofExcept do
    if !Kind.array.has v then return {}
    let found ← countAccepted (findings refer none s) most 0 v.itemsOf
    return ofCauses asked v (countCauses least most found)
  | .properties schemas, v => findingsOfProperties refer schemas v
  | .matchingProperties schemas, v => findingsOfMatching refer schemas v
  | .otherProperties known patterns s, v => .ofExcept do
    return entryFindings (findings refer none s) (← otherEntries known patterns v)
  | .schemasWith schemas, v => findingsOfSchemasWith refer schemas v
  | .propertyNames s, v => .ofEach (findings refer none s) (v.entriesOf.map (·.1))
  | .allOf schemas, v => findingsOfAllOf refer schemas v
  | .anyOf schemas, v => findingsOfAnyOf refer asked [] schemas v
  | .oneOf schemas, v => findingsOfOneOf refer asked [] schemas v
  | .negation shown s, v => .ofExcept do
    return ofCauses asked v
      (if ← (findings refer none s v).accepts then [.acceptedAgainst shown] else [])
  | .conditional test yes no, v => .ofExcept do
    return if ← (findings refer none test v).accepts then findings refer none yes v
      else findings refer none no v
  | .unseenProperties forbidden s beside, v => .ofExcept do
    let seen ← seenByAll refer beside v
    match ← failingKeys (findings refer none s)
        (v.entriesOf.filter fun e => !seen.any (· == e.1)) with
    | [] => return {}
    | names =>
      return ofCauses asked v
        [.unseenNames forbidden (if forbidden then inOrder names else names)]
  | .unseenItems s beside, v => .ofExcept do
    let seen ← seenByAll refer beside v
    let unseen := (placesOf v).filter fun e => !seen.any (· == e.1)
    match ← chosenSteps (findings refer none s) false (unseen.map fun e => (e.2, e.2)) with
    | [] => return {}
    | left => return ofCauses asked v [.unseenItems left]
  | .reference name, v => refer.findings name v
  | rule, v => .ofExcept (ofCauses asked v <$> plainCauses rule v)

/-- What is found under every one of some rules. -/
def findingsOfAll (refer : Referral) (asked : Option (List Kind)) :
    List Schema → Value → Findings
  | [], _ => {}
  | rule :: rest, v => findings refer asked rule v ++ findingsOfAll refer asked rest v

/-- What is found under every one of some schemas. -/
def findingsOfAllOf (refer : Referral) : List Schema → Value → Findings
  | [], _ => {}
  | s :: rest, v => findings refer none s v ++ findingsOfAllOf refer rest v

/-- The failure of a value that none of some schemas accepts, with the failures under those before. -/
def findingsOfAnyOf (refer : Referral) (asked : Option (List Kind)) (before : List Failure) :
    List Schema → Value → Findings
  | [], v => .ofFailure (failureOf asked v (.acceptedByNone false) before)
  | s :: rest, v => match (findings refer none s v).all with
    | .error b => .brokenOff b
    | .ok [] => {}
    | .ok found => findingsOfAnyOf refer asked (before ++ found) rest v

/-- The failure of a value that not exactly one of some schemas accepts. -/
def findingsOfOneOf (refer : Referral) (asked : Option (List Kind)) (before : List Failure) :
    List (Value × Schema) → Value → Findings
  | [], v => .ofFailure (failureOf asked v (.acceptedByNone true) before)
  | (shown, s) :: rest, v => match (findings refer none s v).all with
    | .error b => .brokenOff b
    | .ok [] => .ofExcept do
      match ← acceptingAmong refer rest v with
      | [] => return {}
      | others => return ofCauses asked v [.acceptedBySeveral (others ++ [shown])]
    | .ok found => findingsOfOneOf refer asked (before ++ found) rest v

/-- Those of some schemas that accept a value, as they are shown. -/
def acceptingAmong (refer : Referral) :
    List (Value × Schema) → Value → Except Breakdown (List Value)
  | [], _ => .ok []
  | (shown, s) :: rest, v => do
    let accepts ← (findings refer none s v).accepts
    let others ← acceptingAmong refer rest v
    return if accepts then shown :: others else others

/-- What is found in the first items of a list, one by one. -/
def findingsOfLeading (refer : Referral) (place : Nat) : List Schema → List Value → Findings
  | s :: rest, x :: xs =>
    (findings refer none s x).behind (.int place) ++ findingsOfLeading refer (place + 1) rest xs
  | _, _ => {}

/-- What is found in the values under the names of the schemas. -/
def findingsOfProperties (refer : Referral) : List (String × Schema) → Value → Findings
  | [], _ => {}
  | (name, s) :: rest, v =>
    (match v.get? name with
      | some x => (findings refer none s x).behind (.text name)
      | none => {}) ++ findingsOfProperties refer rest v

/-- What is found in the values under keys in which the patterns occur. -/
def findingsOfMatching (refer : Referral) : List (Expected × Schema) → Value → Findings
  | [], _ => {}
  | (e, s) :: rest, v =>
    matchingFindings (findings refer none s) e v.entriesOf ++ findingsOfMatching refer rest v

/-- What is found under the schemas whose names are keys of a mapping. -/
def findingsOfSchemasWith (refer : Referral) : List (String × Schema) → Value → Findings
  | [], _ => {}
  | (name, s) :: rest, v =>
    (if (v.get? name).isSome then findings refer none s v else {}) ++
      findingsOfSchemasWith refer rest v

/-- The steps into a value behind which a schema looks: keys of a mapping, places of a list. -/
def seen (refer : Referral) : Schema → Value → Except Breakdown (List Value)
  | .all rules, v => seenByAll refer rules v
  | .leading schemas, _ => .ok ((List.range schemas.length).map fun n => .int (Int.ofNat n))
  | .items _ _, v | .noItems _, v | .noFurtherItems _, v => .ok ((placesOf v).map (·.1))
  | .countedItems s _ _, v | .unseenItems s _, v =>
    chosenSteps (findings refer none s) true (placesOf v)
  | .properties schemas, v =>
    .ok ((schemas.filter fun e => (v.get? e.1).isSome).map fun e => .text e.1)
  | .matchingProperties schemas, v => do
    let found ← v.entriesOf.filterM fun x => occurIn (schemas.map (·.1)) x.1
    return found.map (·.1)
  | .otherProperties _ _ s, v | .unseenProperties _ s _, v =>
    chosenSteps (findings refer none s) true v.entriesOf
  | .schemasWith schemas, v => seenWith refer schemas v
  | .allOf schemas, v | .anyOf schemas, v => seenByAccepting refer schemas v
  | .oneOf schemas, v => seenByShown refer schemas v
  | .conditional test yes no, v => do
    if ← (findings refer none test v).accepts then
      return (← seen refer test v) ++ (← seen refer yes v)
    else seen refer no v
  | .reference name, v => refer.seen name v
  | _, _ => .ok []

def seenByAll (refer : Referral) : List Schema → Value → Except Breakdown (List Value)
  | [], _ => .ok []
  | s :: rest, v => do return (← seen refer s v) ++ (← seenByAll refer rest v)

/-- The steps that those of some schemas look behind that accept the value. -/
def seenByAccepting (refer : Referral) : List Schema → Value → Except Breakdown (List Value)
  | [], _ => .ok []
  | s :: rest, v => do
    let here ← if ← (findings refer none s v).accepts then seen refer s v else pure []
    return here ++ (← seenByAccepting refer rest v)

def seenByShown (refer : Referral) :
    List (Value × Schema) → Value → Except Breakdown (List Value)
  | [], _ => .ok []
  | (_, s) :: rest, v => do
    let here ← if ← (findings refer none s v).accepts then seen refer s v else pure []
    return here ++ (← seenByShown refer rest v)

/-- The steps that the schemas look behind whose names are keys of a mapping. -/
def seenWith (refer : Referral) : List (String × Schema) → Value → Except Breakdown (List Value)
  | [], _ => .ok []
  | (name, s) :: rest, v => do
    let here ← if (v.get? name).isSome then seen refer s v else pure []
    return here ++ (← seenWith refer rest v)

end

/-! ## 4. References -/

/-- What is known by the names of schemas, which may refer to others so many times. -/
def referral (find : String → Option Schema) : Nat → Referral
  | 0 => { findings := fun _ _ => .brokenOff .endless, seen := fun _ _ => .error .endless }
  | fuel + 1 =>
    let within := referral find fuel
    let named {α : Type} (name : String) (use : Schema → Except Breakdown α) : Except Breakdown α :=
      match find name with
      | some s => use s
      | none => .error (.unresolved name)
    { findings := fun name v => .ofExcept (named name fun s => .ok (findings within none s v))
      seen := fun name v => named name fun s => seen within s v }

end Reconcile.Schema
