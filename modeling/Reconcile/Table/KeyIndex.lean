import Reconcile.Decimal.Reader
import Reconcile.Decimal.Rounding
import Reconcile.Table.RowKey

/-!
# Key index

Candidates by key. They are kept in buckets by what has to be equal: the texts of plain key
columns and the numbers of numeric ones with precision zero. Key columns with a tolerance are left
out of that and are compared inside the bucket. The first candidate with an equal key is the one
that was added first, also when several keys are equal to the one that is looked for.
-/

namespace Reconcile.Table

/-! ## 1. Equality of keys -/

/-- What has to be equal about one value of a key: a number, or a text that may be absent. -/
inductive KeyPart where
  | number (d : Decimal)
  | text (cell : Option String)
  deriving Repr

def KeyPart.same : KeyPart → KeyPart → Bool
  | .number a, .number b => a.same b
  | .text a, .text b => a == b
  | _, _ => false

/-- Whether two lists of parts are equal part by part. -/
def sameParts : List KeyPart → List KeyPart → Bool
  | [], [] => true
  | a :: as, b :: bs => a.same b && sameParts as bs
  | _, _ => false

/-- The part of a value that is read as a number when it is one. -/
def numericPart (cell : Option String) : KeyPart :=
  match Decimal.readCell? cell with
  | some d => .number d
  | none => .text cell

/-- How the columns of a key are compared: the precisions of those that are numeric. -/
structure KeyRule where
  numeric : List (String × Decimal)
  deriving Repr

namespace KeyRule

/-- The rule for key columns, given the precisions of all numeric columns. -/
def ofColumns (columns : List String) (numeric : List (String × Decimal)) : KeyRule :=
  ⟨columns.eraseDups.filterMap fun c => (numeric.lookup c).map fun p => (c, p)⟩

/-- Whether a column is compared with a tolerance. -/
def isTolerant (r : KeyRule) (column : String) : Bool :=
  (r.numeric.lookup column).any fun p => !p.isZero

def tolerantColumns (r : KeyRule) : List (String × Decimal) :=
  r.numeric.filter fun (_, p) => !p.isZero

/-- The parts of a key that have to be equal. -/
def parts (r : KeyRule) (k : RowKey) : List KeyPart :=
  k.pairs.filterMap fun (c, v) =>
    if r.isTolerant c then none
    else if (r.numeric.lookup c).isSome then some (numericPart v)
    else some (.text v)

/-- Whether two values agree up to a precision; values that are not both numbers must be equal. -/
def agreeCells (left right : Option String) (precision : Decimal) : Bool :=
  match Decimal.readCell? left, Decimal.readCell? right with
  | some a, some b => Decimal.within a b precision
  | _, _ => left == right

/-- Whether two keys agree in the columns with a tolerance. -/
def agree (r : KeyRule) (left right : RowKey) : Bool :=
  r.tolerantColumns.all fun (c, p) => agreeCells (left.value c) (right.value c) p

end KeyRule

/-! ## 2. The index -/

/-- A candidate with its key and its number in the order of addition. -/
structure Entry (α : Type) where
  number : Nat
  key : RowKey
  candidate : α
  deriving Repr

/-- The candidates whose keys have equal parts, in the order of addition. -/
structure Bucket (α : Type) where
  parts : List KeyPart
  entries : List (Entry α)
  deriving Repr

/-- An index of candidates by key. -/
structure KeyIndex (α : Type) where
  rule : KeyRule
  buckets : List (Bucket α) := []
  added : Nat := 0
  size : Nat := 0
  deriving Repr

namespace KeyIndex

variable {α : Type}

/-- An index without candidates. -/
def empty (columns : List String) (numeric : List (String × Decimal)) : KeyIndex α :=
  { rule := KeyRule.ofColumns columns numeric }

/-- Puts an entry at the end of its bucket, which is made when there is none. -/
def addTo (parts : List KeyPart) (e : Entry α) : List (Bucket α) → List (Bucket α)
  | [] => [⟨parts, [e]⟩]
  | b :: rest =>
    if sameParts b.parts parts then { b with entries := b.entries ++ [e] } :: rest
    else b :: addTo parts e rest

/-- Adds a candidate. -/
def add (x : KeyIndex α) (candidate : α) (key : RowKey) : KeyIndex α :=
  { x with
    buckets := addTo (x.rule.parts key) ⟨x.added, key, candidate⟩ x.buckets
    added := x.added + 1
    size := x.size + 1 }

/-- The entries whose keys have the parts of a key. -/
def bucketOf (x : KeyIndex α) (key : RowKey) : List (Entry α) :=
  match x.buckets.find? fun b => sameParts b.parts (x.rule.parts key) with
  | some b => b.entries
  | none => []

/-- The first entry with an equal key. -/
def locate? (x : KeyIndex α) (key : RowKey) : Option (Entry α) :=
  (x.bucketOf key).find? fun e => x.rule.agree key e.key

/-- The first candidate with an equal key. -/
def find? (x : KeyIndex α) (key : RowKey) : Option α := (x.locate? key).map Entry.candidate

/-- Takes an entry out of its bucket. -/
def remove (number : Nat) (parts : List KeyPart) : List (Bucket α) → List (Bucket α)
  | [] => []
  | b :: rest =>
    if sameParts b.parts parts then
      { b with entries := b.entries.eraseP fun e => e.number == number } :: rest
    else b :: remove number parts rest

/-- Takes the first candidate with an equal key out of the index. -/
def take? (x : KeyIndex α) (key : RowKey) : Option (α × KeyIndex α) :=
  (x.locate? key).map fun e =>
    (e.candidate, { x with
      buckets := remove e.number (x.rule.parts key) x.buckets
      size := x.size - 1 })

/-- The candidates that were not taken, in the order of addition. -/
def leftovers (x : KeyIndex α) : List α :=
  ((x.buckets.flatMap Bucket.entries).mergeSort fun a b => a.number ≤ b.number).map
    Entry.candidate

end KeyIndex

/-! ## 3. Duplicates -/

/-- The keys seen so far, each under the name of the row that had it first. -/
structure DuplicateTracker where
  seen : KeyIndex String

namespace DuplicateTracker

def empty (columns : List String) (numeric : List (String × Decimal)) : DuplicateTracker :=
  ⟨KeyIndex.empty columns numeric⟩

/-- Records a key; tells the name of its first occurrence when it was seen before. -/
def register (t : DuplicateTracker) (key : RowKey) (name : String) :
    Option String × DuplicateTracker :=
  match t.seen.find? key with
  | some first => (some first, t)
  | none => (none, ⟨t.seen.add name key⟩)

end DuplicateTracker

end Reconcile.Table
