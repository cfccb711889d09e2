import Reconcile.Table.Row

/-!
# Row keys

The values of the key columns of a row, in the order of the key columns. On the actual side the
values are read under the names that the columns have there.
-/

namespace Reconcile.Table

open Reconcile.Text

/-- The columns of a key with their values. -/
structure RowKey where
  pairs : List (String × Option String)
  deriving DecidableEq, Repr

namespace RowKey

/-- The key of a row. -/
def ofRow (row : Row) (columns : List String) (mapping : List (String × String) := []) : RowKey :=
  ⟨columns.map fun c => (c, row.get ((mapping.lookup c).getD c))⟩

/-- The value of a column of the key. -/
def value (k : RowKey) (column : String) : Option String := (k.pairs.lookup column).join

/-- The key as reports write it. -/
def text (k : RowKey) : String :=
  ", ".intercalate (k.pairs.map fun (c, v) => c ++ "=" ++ v.getD "<absent>")

/-- The key as messages show it. -/
def shown (k : RowKey) : String :=
  let pair (p : String × Option String) : String :=
    "(" ++ quoted p.1 ++ ", " ++ quotedOption p.2 ++ ")"
  match k.pairs with
  | [p] => "RowKey((" ++ pair p ++ ",))"
  | ps => "RowKey((" ++ ", ".intercalate (ps.map pair) ++ "))"

end RowKey

end Reconcile.Table
