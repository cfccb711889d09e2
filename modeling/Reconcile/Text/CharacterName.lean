import Reconcile.Text.NameTable.Alias
import Reconcile.Text.NameTable.Ancient
import Reconcile.Text.NameTable.Latin
import Reconcile.Text.NameTable.Pictures
import Reconcile.Text.NameTable.Scripts
import Reconcile.Text.NameTable.Syllables
import Reconcile.Text.NameTable.Symbols
import Reconcile.Text.Ranges

/-!
# Names of characters

The character that has a name. Hangul syllables are named by their sounds and ideographs by their
code points; these names are written in capital letters. All others are listed, and small letters do
for them as well.
-/

namespace Reconcile.Text

/-! ## 1. Hangul syllables -/

/-- The sounds a syllable can begin with, in order. -/
def leadingSounds : List String := [
  "G", "GG", "N", "D", "DD", "R", "M", "B", "BB", "S", "SS", "", "J", "JJ", "C", "K", "T", "P", "H"]

/-- The vowels of a syllable, in order. -/
def vowelSounds : List String := [
  "A", "AE", "YA", "YAE", "EO", "E", "YEO", "YE", "O", "WA", "WAE", "OE", "YO", "U", "WEO", "WE",
  "WI", "YU", "EU", "YI", "I"]

/-- The sounds a syllable can end with, in order. -/
def trailingSounds : List String := [
  "", "G", "GG", "GS", "N", "NJ", "NH", "D", "L", "LG", "LM", "LB", "LS", "LT", "LP", "LH", "M", "B",
  "BS", "S", "SS", "NG", "J", "C", "K", "T", "P", "H"]

/-- Whether the letter is one that vowels are written with. -/
def isVowelLetter (c : Char) : Bool := "AEIOUWY".contains c

/-- The syllable with the given sounds. -/
def syllable? (sounds : List Char) : Option Nat := do
  let (leading, rest) := sounds.span (!isVowelLetter ·)
  let (vowel, trailing) := rest.span isVowelLetter
  let l ← leadingSounds.idxOf? (String.ofList leading)
  let v ← vowelSounds.idxOf? (String.ofList vowel)
  let t ← trailingSounds.idxOf? (String.ofList trailing)
  return 0xac00 + (l * vowelSounds.length + v) * trailingSounds.length + t

/-! ## 2. Names with numbers -/

/-- The ideographs that are named by their code points. -/
def ideographRanges : Ranges := [
  (0x3400, 0x4dbf), (0x4e00, 0x9fff), (0x20000, 0x2a6df), (0x2a700, 0x2b738), (0x2b740, 0x2b81d),
  (0x2b820, 0x2cea1), (0x2ceb0, 0x2ebe0), (0x30000, 0x3134a)]

/-- Other characters that are named by their code points, with the text before these. -/
def numberedFamilies : List (String × Ranges) := [
  ("CJK COMPATIBILITY IDEOGRAPH-", [(0xf900, 0xfa6d), (0xfa70, 0xfad9), (0x2f800, 0x2fa1d)]),
  ("KHITAN SMALL SCRIPT CHARACTER-", [(0x18b00, 0x18cd5)]),
  ("NUSHU CHARACTER-", [(0x1b170, 0x1b2fb)])]

/-- The value of a digit to the base of sixteen, in capital letters. -/
def capitalHexDigit? (c : Char) : Option Nat :=
  if '0' ≤ c && c ≤ '9' then some (c.toNat - '0'.toNat)
  else if 'A' ≤ c && c ≤ 'F' then some (c.toNat - 'A'.toNat + 10)
  else none

/-- A code point written with four or five digits. -/
def codePoint? (digits : List Char) : Option Nat :=
  if digits.length = 4 || digits.length = 5 then
    digits.foldlM (fun n c => (capitalHexDigit? c).map (16 * n + ·)) 0
  else none

/-- What stands behind a text at the front of another. -/
def after? (front : String) (s : List Char) : Option (List Char) :=
  if front.toList.isPrefixOf s then some (s.drop front.length) else none

/-- The character of a family named by code points. A code point below 10000 has four digits. -/
def numbered? (name : List Char) : Option Nat :=
  numberedFamilies.findSome? fun (front, ranges) => do
    let digits ← after? front name
    let n ← codePoint? digits
    if ranges.has n && (digits.length = 4 || n ≥ 0x10000) then some n else none

/-- The variation selector of an abbreviated name. -/
def selector? (name : List Char) : Option Nat :=
  ((List.range 256).find? fun i => name == ("VS" ++ toString (i + 1)).toList).map fun i =>
    if i < 16 then 0xfe00 + i else 0xe0100 + (i - 16)

/-! ## 3. All names -/

/-- The blocks of listed names. -/
def nameBlocks : List (List NameTable.Block) := [
  NameTable.latin, NameTable.scripts, NameTable.symbols, NameTable.syllables, NameTable.ancient,
  NameTable.pictures]

/-- The character with a listed name. -/
def listed? (name : List Char) : Option Nat :=
  (nameBlocks.findSome? fun blocks => blocks.findSome? fun b => b.find? name).or
    ((NameTable.aliases.find? fun (_, names) => names.contains (String.ofList name)).map (·.1))

/-- The code point of the character that has the name. -/
def characterNamed? (name : List Char) : Option Nat :=
  match after? "HANGUL SYLLABLE " name with
  | some sounds => syllable? sounds
  | none => match after? "CJK UNIFIED IDEOGRAPH-" name with
    | some digits => (codePoint? digits).filter ideographRanges.has
    | none =>
      let capitals := name.map Char.toUpper
      ((numbered? capitals).or (selector? capitals)).or (listed? capitals)

end Reconcile.Text
