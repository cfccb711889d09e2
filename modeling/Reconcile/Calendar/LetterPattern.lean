import Reconcile.Text.Letter

/-!
# Letter patterns

Dates are described either by directives (`%d.%m.%Y`) or by runs of letters (`dd.MM.yyyy`). A
letter pattern is turned run by run into directives; text between single quotes is copied,
and two quotes side by side are one quote. A pattern with a percent sign is taken to be written
in directives and is left as it is.
-/

namespace Reconcile.Calendar

open Reconcile.Text

/-- What is wrong with a letter pattern. -/
inductive PatternFault where
  | unterminatedQuote (pattern : String)
  | unsupportedLetter (letter : Char) (pattern : String)
  deriving DecidableEq, Repr

def PatternFault.message : PatternFault → String
  | .unterminatedQuote p => "Unterminated quote in date format '" ++ p ++ "'"
  | .unsupportedLetter c p =>
    "Unsupported letter '" ++ c.toString ++ "' in date format '" ++ p ++ "'"

/-- The directive for a run of a letter. -/
def directiveFor? (letter : Char) (count : Nat) : Option Char :=
  match letter with
  | 'y' => some (if count = 2 then 'y' else 'Y')
  | 'M' => some (if count ≤ 2 then 'm' else if count = 3 then 'b' else 'B')
  | 'd' => some 'd'
  | 'H' | 'k' => some 'H'
  | 'h' | 'K' => some 'I'
  | 'm' => some 'M'
  | 's' => some 'S'
  | 'S' => some 'f'
  | 'a' => some 'p'
  | 'E' => some (if count ≤ 3 then 'a' else 'A')
  | 'D' => some 'j'
  | 'z' => some 'Z'
  | 'Z' | 'X' => some 'z'
  | _ => none

theorem length_dropWhile_le (p : Char → Bool) (s : List Char) :
    (s.dropWhile p).length ≤ s.length := (List.dropWhile_suffix p).length_le

/-- The directives for what is left of a letter pattern. -/
def directivesFrom (pattern : String) : List Char → Except PatternFault (List Char)
  | [] => .ok []
  | c :: rest =>
    if c == '\'' then
      match h : rest.dropWhile (· != '\'') with
      | [] => .error (.unterminatedQuote pattern)
      | _ :: after =>
        have : after.length + 1 ≤ rest.length := by
          have := length_dropWhile_le (· != '\'') rest
          rwa [h] at this
        let quotedText := rest.takeWhile (· != '\'')
        return (if quotedText.isEmpty then ['\''] else quotedText) ++
          (← directivesFrom pattern after)
    else if isLetter c then
      have := length_dropWhile_le (· == c) rest
      match directiveFor? c (1 + (rest.takeWhile (· == c)).length) with
      | none => .error (.unsupportedLetter c pattern)
      | some d => return '%' :: d :: (← directivesFrom pattern (rest.dropWhile (· == c)))
    else return c :: (← directivesFrom pattern rest)
  termination_by s => s.length
  decreasing_by all_goals grind

/-- The directives a date pattern stands for. -/
def directivesOf (pattern : String) : Except PatternFault (List Char) :=
  let cs := pattern.toList
  if cs.contains '%' then .ok cs else directivesFrom pattern cs

end Reconcile.Calendar
