/-!
# Blocks of names

The names of characters stand in tables. A block holds the names of code points that follow each
other; what a name has in common with the one before it is not written again.
-/

namespace Reconcile.Text.NameTable

/-- A code point and lines with the names from there on. Each name is written as a small letter, which
    tells how many words of the name before it begins with (`a` none, `b` one, and so on), and the
    text that comes then. A word ends with the blank or the hyphen behind it. -/
abbrev Block := Nat × List String

/-- The number a small letter stands for. -/
def kept? (c : Char) : Option Nat :=
  if 'a' ≤ c && c ≤ 'z' then some (c.toNat - 'a'.toNat) else none

/-- The written names of a line: how much is kept, and the text that comes then. -/
def entries (s : String) : List (Nat × List Char) :=
  (s.toList.foldr (fun c (text, es) =>
    match kept? c with
    | some k => ([], (k, text) :: es)
    | none => (c :: text, es)) ([], [])).2

/-- The first words of a name. -/
def firstWords : Nat → List Char → List Char
  | 0, _ => []
  | n + 1, name =>
    let (word, rest) := name.span fun c => c != ' ' && c != '-'
    word ++ rest.take 1 ++ firstWords n (rest.drop 1)

/-- The names that written names give behind a given one. -/
def namesAfter (previous : List Char) : List (Nat × List Char) → List (List Char)
  | [] => []
  | (k, text) :: rest =>
    let name := firstWords k previous ++ text
    name :: namesAfter name rest

/-- The code point that has the name, if it is one of the block. -/
def Block.find? (b : Block) (name : List Char) : Option Nat :=
  ((namesAfter [] (b.2.flatMap entries)).idxOf? name).map (b.1 + ·)

end Reconcile.Text.NameTable
