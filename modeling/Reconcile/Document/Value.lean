import Reconcile.Calendar.Moment
import Reconcile.Decimal.Binary
import Reconcile.Text.Quoted

/-!
# Document values

What a document holds once it is read: the same type serves settings files, schemas and log
records. Mappings keep the order in which their keys first came; writing to a key that is there
already replaces its value and moves nothing. A collection may come inside of itself; then it has a
label, and the label stands where it comes again.
-/

namespace Reconcile.Document

open Reconcile.Calendar (Day Moment)

/-- A value of a document. -/
inductive Value where
  | null
  | bool (b : Bool)
  | int (n : Int)
  | float (x : Float)
  | text (s : String)
  | day (d : Day)
  | instant (t : Moment)
  | bytes (bs : List Nat)
  | list (items : List Value)
  | map (entries : List (Value × Value))
  | set (items : List Value)
  | tuple (items : List Value)
  /-- a collection that may come again inside of itself -/
  | labelled (label : Nat) (collection : Value)
  /-- the collection around with a label, which is a mapping or not -/
  | again (label : Nat) (isMap : Bool)
  deriving Inhabited

namespace Value

/-! ## 1. Collections inside of themselves -/

mutual

/-- The value with a collection in the places where its label stands. -/
def filled (label : Nat) (collection : Value) : Value → Value
  | .again l isMap => if l == label then collection else .again l isMap
  | .labelled l v => .labelled l (filled label collection v)
  | .list xs => .list (filledItems label collection xs)
  | .tuple xs => .tuple (filledItems label collection xs)
  | .map es => .map (filledEntries label collection es)
  | v => v

def filledItems (label : Nat) (collection : Value) : List Value → List Value
  | [] => []
  | x :: xs => filled label collection x :: filledItems label collection xs

def filledEntries (label : Nat) (collection : Value) :
    List (Value × Value) → List (Value × Value)
  | [] => []
  | (k, v) :: es => (k, filled label collection v) :: filledEntries label collection es

end

/-- The collection behind a label. Where it comes inside of itself it stands in full, so that its
    parts are whole values. -/
def opened : Value → Value
  | .labelled l v => filled l (.labelled l v) v
  | v => v

/-- The value without a label of its own. -/
def bare : Value → Value
  | .labelled _ v => v
  | v => v

/-- Whether a value is a list. -/
def isList (v : Value) : Bool :=
  match v.bare with
  | .list _ => true
  | _ => false

/-- Whether a value is a mapping. -/
def isMapping (v : Value) : Bool :=
  match v.bare with
  | .map _ => true
  | _ => false

/-- The items of a list. -/
def itemsOf (v : Value) : List Value :=
  match v.opened with
  | .list xs => xs
  | _ => []

/-- The entries of a mapping. -/
def entriesOf (v : Value) : List (Value × Value) :=
  match v.opened with
  | .map es => es
  | _ => []

/-! ## 2. Equality -/

/-- The number a truth value, an integer or a finite binary number stands for. -/
def number? : Value → Option Decimal
  | .bool b => some (Decimal.ofInt (if b then 1 else 0))
  | .int n => some (Decimal.ofInt n)
  | .float x => if x.isNaN || x.isInf then none else some (Decimal.ofBinary x)
  | _ => none

/-- Equality of values without parts: numbers and truth values are equal as numbers. -/
def sameScalar : Value → Value → Bool
  | .null, .null => true
  | .text a, .text b => a == b
  | .day a, .day b => a == b
  | .instant a, .instant b => a.same b
  | .bytes a, .bytes b => a == b
  | .float x, .float y => x == y
  | a, b => match a.number?, b.number? with
    | some m, some n => m.same n
    | _, _ => false

mutual

/-- Equality of values. Mappings are equal when they have equal entries, in any order. -/
def same : Value → Value → Bool
  | .labelled _ v, b => same v b
  | .again l _, b => match b with
    | .again m _ => l == m
    | _ => false
  | .list xs, b => match b.bare with
    | .list ys => sameItems xs ys
    | _ => false
  | .tuple xs, b => match b with
    | .tuple ys => sameItems xs ys
    | _ => false
  | .map xs, b => match b.bare with
    | .map ys => xs.length == ys.length && sameEntries xs ys
    | _ => false
  | .set xs, b => match b with
    | .set ys => xs.length == ys.length && sameMembers xs ys
    | _ => false
  | a, b => sameScalar a b

def sameItems : List Value → List Value → Bool
  | [], [] => true
  | x :: xs, y :: ys => same x y && sameItems xs ys
  | _, _ => false

def sameEntries : List (Value × Value) → List (Value × Value) → Bool
  | [], _ => true
  | (k, v) :: rest, ys => ys.any (fun e => sameScalar k e.1 && same v e.2) && sameEntries rest ys

def sameMembers : List Value → List Value → Bool
  | [], _ => true
  | x :: rest, ys => ys.any (fun y => sameScalar x y) && sameMembers rest ys

end

instance : BEq Value := ⟨same⟩

/-! ## 3. Mappings -/

/-- Writes an entry: a key that is there keeps its place and gets the value, a new one goes to
    the end. -/
def put (entries : List (Value × Value)) (key value : Value) : List (Value × Value) :=
  if entries.any (fun e => sameScalar e.1 key) then
    entries.map fun e => if sameScalar e.1 key then (e.1, value) else e
  else entries ++ [(key, value)]

/-- The mapping with the given pairs, written one after the other. -/
def ofPairs (pairs : List (Value × Value)) : Value :=
  .map (pairs.foldl (fun es p => put es p.1 p.2) [])

/-- The value under a text key. -/
def get? (v : Value) (key : String) : Option Value :=
  (v.entriesOf.find? fun e => sameScalar e.1 (.text key)).map (·.2)

/-- A mapping with text keys. -/
def record (fields : List (String × Value)) : Value := .map (fields.map fun (k, v) => (.text k, v))

def ofOption : Option String → Value
  | some s => .text s
  | none => .null

def texts (ss : List String) : Value := .list (ss.map .text)

/-- Whether a value counts as nothing: null, false, a zero, or empty. -/
def isNothing : Value → Bool
  | .null => true
  | .bool b => !b
  | .int n => n == 0
  | .float x => x == 0
  | .text s => s.isEmpty
  | .bytes bs => bs.isEmpty
  | .list xs => xs.isEmpty
  | .map es => es.isEmpty
  | .set xs => xs.isEmpty
  | .tuple xs => xs.isEmpty
  | .labelled _ v => isNothing v
  | .day _ | .instant _ | .again _ _ => false

/-! ## 4. Values shown in messages -/

/-- A byte string between quotes. -/
def shownBytes (bs : List Nat) : String :=
  let cs := bs.map Char.ofNat
  let quote := Text.quoteFor cs
  let one (c : Char) : List Char :=
    if c.toNat < 0x7F then Text.quotedChar quote c else '\\' :: 'x' :: Text.hexDigits 2 c.toNat
  "b" ++ String.ofList (quote :: cs.flatMap one ++ [quote])

/-- A distance of time as it is shown: days, seconds of the day and microseconds. -/
def shownDistance (microseconds : Int) : String :=
  let seconds := Int.fdiv microseconds 1000000
  let part (name : String) (n : Int) : List String :=
    if n = 0 then [] else [name ++ "=" ++ toString n]
  let parts := part "days" (Int.fdiv seconds 86400) ++ part "seconds" (Int.fmod seconds 86400) ++
    part "microseconds" (Int.fmod microseconds 1000000)
  "datetime.timedelta(" ++ (if parts.isEmpty then "0" else ", ".intercalate parts) ++ ")"

def shownDay (d : Day) : String := s!"datetime.date({d.year}, {d.month}, {d.day})"

def shownInstant (t : Moment) : String :=
  let fraction :=
    if t.microsecond ≠ 0 then [t.second, t.microsecond]
    else if t.second ≠ 0 then [t.second] else []
  let fields := [t.day.year, t.day.month, t.day.day, t.hour, t.minute] ++ fraction
  let zone := match t.zone with
    | none => ""
    | some 0 => ", tzinfo=datetime.timezone.utc"
    | some z => ", tzinfo=datetime.timezone(" ++ shownDistance z ++ ")"
  "datetime.datetime(" ++ ", ".intercalate (fields.map toString) ++ zone ++ ")"

/-- The sign for a collection that is being shown already. -/
def sign (isMap : Bool) : String := if isMap then "\x7b...\x7d" else "[...]"

mutual

/-- A value as messages show it, inside of the collections with the given labels. -/
def shownInside (around : List Nat) : Value → String
  | .null => "None"
  | .bool b => if b then "True" else "False"
  | .int n => toString n
  | .float x => Decimal.binaryText x
  | .text s => Text.quoted s
  | .day d => shownDay d
  | .instant t => shownInstant t
  | .bytes bs => shownBytes bs
  | .list xs => Text.bracketed (shownItems around xs)
  | .map es => Text.braced (shownEntries around es)
  | .set [] => "set()"
  | .set xs => "\x7b" ++ ", ".intercalate (shownItems around xs) ++ "\x7d"
  | .tuple [x] => "(" ++ shownInside around x ++ ",)"
  | .tuple xs => "(" ++ ", ".intercalate (shownItems around xs) ++ ")"
  | .labelled l v =>
    if around.contains l then sign v.isMapping else shownInside (l :: around) v
  | .again _ isMap => sign isMap

def shownItems (around : List Nat) : List Value → List String
  | [] => []
  | x :: xs => shownInside around x :: shownItems around xs

def shownEntries (around : List Nat) : List (Value × Value) → List (String × String)
  | [] => []
  | (k, v) :: es => (shownInside around k, shownInside around v) :: shownEntries around es

end

/-- A value as messages show it. -/
def shown (v : Value) : String := shownInside [] v

/-- The most digits an integer is shown with. -/
def maxShownDigits : Nat := 4300

/-- The least number with more digits. -/
@[irreducible] def tooLongToShow : Nat := Nat.pow 10 maxShownDigits

/-- What is said of an integer with more digits. -/
def longNumberMessage : String :=
  s!"Exceeds the limit ({maxShownDigits} digits) for integer string conversion; " ++
    "use sys.set_int_max_str_digits() to increase the limit"

mutual

/-- Whether a value can be shown: there is no integer in it with too many digits. -/
def isShowable : Value → Bool
  | .int n => n.natAbs < tooLongToShow
  | .list xs | .set xs | .tuple xs => areShowable xs
  | .map es => haveShowableParts es
  | .labelled _ v => isShowable v
  | _ => true

def areShowable : List Value → Bool
  | [] => true
  | x :: xs => isShowable x && areShowable xs

def haveShowableParts : List (Value × Value) → Bool
  | [] => true
  | (k, v) :: es => isShowable k && isShowable v && haveShowableParts es

end

theorem isShowable_text (s : String) : (Value.text s).isShowable = true := by
  simp only [isShowable]

/-- A value as text: a text is itself, everything else is as messages show it, except that days
    and times are written out. -/
def plain : Value → String
  | .text s => s
  | .day d => Moment.dayText d
  | .instant t => t.text " "
  | v => v.shown

end Value

end Reconcile.Document
