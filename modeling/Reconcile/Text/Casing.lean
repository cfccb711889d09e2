import Reconcile.Text.CaseTable

/-!
# Letter case

Lower case and case folding of whole texts, and the characters that are equal regardless of
case. The lower case of a sigma depends on its place in the word; folding does not.
-/

namespace Reconcile.Text

/-- The lower case of one character, as one character. -/
def lowerCode (n : Nat) : Nat := (mapRuns lowerRuns n).getD n

/-- Looks through the characters that case ignores and asks whether a cased one comes first. -/
def casedAhead : List Char → Bool
  | [] => false
  | c :: rest =>
    if caseIgnorableRanges.has c.toNat then casedAhead rest else casedRanges.has c.toNat

/-- The lower case of a text, given the characters before it in reverse. A sigma that ends a word
    has a form of its own, and the dotted capital I becomes two characters. -/
def lowerFrom : List Char → List Char → List Char
  | _, [] => []
  | before, c :: rest =>
    let low : List Char :=
      if c == 'Σ' then [if casedAhead before && !casedAhead rest then 'ς' else 'σ']
      else if c == 'İ' then ['i', '\u0307']
      else [Char.ofNat (lowerCode c.toNat)]
    low ++ lowerFrom (c :: before) rest

/-- The text in lower case. -/
def lower (s : String) : String := String.ofList (lowerFrom [] s.toList)

/-- The folding of one character. -/
def foldChar (c : Char) : List Char :=
  match foldExpansions.lookup c.toNat with
  | some codes => codes.map Char.ofNat
  | none => [Char.ofNat ((mapRuns foldRuns c.toNat).getD (lowerCode c.toNat))]

/-- The text without its differences of case: two texts are equal regardless of case when their
    foldings are equal. -/
def fold (s : String) : String := String.ofList (s.toList.flatMap foldChar)

/-- The characters that equal the given one when case is ignored: those with the same lower case,
    and those whose lower case shares its upper case with it. -/
def caseVariants (n : Nat) : List Nat :=
  let low := lowerCode n
  let family := match sharedUpper.find? (·.contains low) with
    | some kin => kin
    | none => [low]
  family ++ family.flatMap (preimages lowerRuns)

end Reconcile.Text
