import Reconcile.Text.Quoted

/-!
# Rows

A header is a list of distinct column names. A row gives values to the columns of its header in
order, perhaps not to all of them. A value may be absent, which is not the same as empty; a column
that the header does not have, or the row gives no value to, reads as absent.
-/

namespace Reconcile.Table

open Reconcile.Text

/-! ## 1. Headers -/

/-- Why something is no header or no row. -/
inductive ShapeFault where
  | duplicateColumn (column : String)
  | tooManyValues (values columns : Nat)
  deriving DecidableEq, Repr

def ShapeFault.message : ShapeFault → String
  | .duplicateColumn c => s!"Duplicate column '{c}' in header"
  | .tooManyValues values columns =>
    s!"Row has {values} values but header has {columns} columns"

/-- The columns of a table. -/
structure Header where
  columns : List String
  nodup : columns.Nodup
  deriving DecidableEq, Repr

/-- The first column that comes a second time. -/
def firstRepeated (seen : List String) : List String → Option String
  | [] => none
  | c :: rest => if seen.contains c then some c else firstRepeated (c :: seen) rest

namespace Header

/-- The header with the given columns. -/
def ofColumns (columns : List String) : Except ShapeFault Header :=
  if h : columns.Nodup then .ok ⟨columns, h⟩
  else .error (.duplicateColumn ((firstRepeated [] columns).getD ""))

/-- The place of a column. -/
def position? (h : Header) (column : String) : Option Nat := h.columns.idxOf? column

def has (h : Header) (column : String) : Bool := h.columns.contains column

def size (h : Header) : Nat := h.columns.length

/-- The header as messages show it. -/
def shown (h : Header) : String := "Header(" ++ bracketed (h.columns.map quoted) ++ ")"

end Header

/-! ## 2. Rows -/

/-- Values for the columns of a header. -/
structure Row where
  header : Header
  values : List (Option String)
  fits : values.length ≤ header.columns.length
  deriving DecidableEq, Repr

namespace Row

/-- The row with the given values. -/
def ofValues (header : Header) (values : List (Option String)) : Except ShapeFault Row :=
  if h : values.length ≤ header.columns.length then .ok ⟨header, values, h⟩
  else .error (.tooManyValues values.length header.size)

/-- The row with the values given by name; names that are no columns are left out. -/
def ofEntries (header : Header) (entries : List (String × Option String)) : Row :=
  ⟨header, header.columns.map fun c => (entries.lookup c).join, by simp⟩

/-- The value of a column. -/
def get (r : Row) (column : String) : Option String :=
  ((r.header.position? column).bind fun i => r.values[i]?).join

/-- The columns with their values. -/
def entries (r : Row) : List (String × Option String) :=
  r.header.columns.map fun c => (c, r.get c)

/-- The row as messages show it. -/
def shown (r : Row) : String :=
  "Row(" ++ braced (r.entries.map fun (c, v) => (quoted c, quotedOption v)) ++ ")"

end Row

end Reconcile.Table
