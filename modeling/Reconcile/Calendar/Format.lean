import Reconcile.Calendar.Directive
import Reconcile.Pattern.Fault
import Reconcile.Pattern.Matcher
import Reconcile.Text.Blank

/-!
# Date formats

A format is text with directives in it. It takes a text as a whole: literal characters regardless
of case, a run of blanks for a run of blanks, and for each directive one of its texts. What the
directives took is handed on in their order.
-/

namespace Reconcile.Calendar

open Reconcile.Pattern Reconcile.Text

/-- A part of a format. -/
inductive FormatPart where
  | literal (c : Char)
  | blanks
  | field (d : Directive)
  deriving DecidableEq, Repr

/-- The parts a letter behind a percent sign stands for; some letters stand for several. -/
def partsFor? (letter : Char) : Option (List FormatPart) :=
  let date : List FormatPart := [.field .month, .literal '/', .field .dayOfMonth, .literal '/']
  let time : List FormatPart :=
    [.field .hour, .literal ':', .field .minute, .literal ':', .field .second]
  match letter with
  | '%' => some [.literal '%']
  | 'c' => some ([.field .weekdayShort, .blanks, .field .monthShort, .blanks, .field .dayOfMonth,
      .blanks] ++ time ++ [.blanks, .field .year])
  | 'x' => some (date ++ [.field .shortYear])
  | 'X' => some time
  | _ => (Directive.ofLetter? letter).map fun d => [.field d]

/-- Reads a format; a percent sign that no known letter follows makes it unreadable. -/
def readFormat? : List Char → Option (List FormatPart)
  | [] => some []
  | ['%'] => none
  | '%' :: letter :: rest => do return (← partsFor? letter) ++ (← readFormat? rest)
  | c :: rest => do
    let parts ← readFormat? rest
    if isBlank c then
      match parts with
      | .blanks :: _ => return parts
      | _ => return .blanks :: parts
    else return .literal c :: parts

namespace FormatPart

/-- The directives of a format, in order. -/
def fields (parts : List FormatPart) : List Directive :=
  parts.filterMap fun
    | .field d => some d
    | _ => none

/-- A part as a pattern is written; a directive is a group named by its letter. -/
def written : FormatPart → List Char
  | .literal c => if "\\.^$*+?()\x7b\x7d[]|".contains c then ['\\', c] else [c]
  | .blanks => ['\\', 's', '+']
  | .field d => "(?P<".toList ++ d.sign :: '>' :: d.written.toList ++ [')']

/-- The number of the group that comes after the given directives. -/
def groupAfter (seen : List Directive) : Nat :=
  seen.foldl (fun number d => number + d.groupCount) 1

/-- What is wrong with a format that asks for a directive twice: the pattern it stands for names a
    group twice. The pattern has been written up to `pos`, with groups for the directives seen. -/
def repeatedFrom (pos : Nat) (seen : List Directive) : List FormatPart → Option Pattern.Fault
  | [] => none
  | .field d :: rest =>
    match seen.idxOf? d with
    | some i =>
      let cause := Pattern.Cause.redefinedName d.sign.toString (groupAfter seen)
        (groupAfter (seen.take i))
      some (.malformed cause (pos + 4))
    | none => repeatedFrom (pos + (FormatPart.field d).written.length) (seen ++ [d]) rest
  | part :: rest => repeatedFrom (pos + part.written.length) seen rest

/-- What is wrong with a format that asks for a directive twice. -/
def repeated? (parts : List FormatPart) : Option Pattern.Fault := repeatedFrom 0 [] parts

/-- The patterns of the parts; the directives become the groups from the given index on. -/
def nodesFrom : Nat → List FormatPart → List Node
  | _, [] => []
  | i, .literal c :: rest => Directive.letter c :: nodesFrom i rest
  | i, .blanks :: rest =>
    .loop .greedy 1 none (.one { items := [.named .space false] }) :: nodesFrom i rest
  | i, .field d :: rest => .group i d.node :: nodesFrom (i + 1) rest

/-- The text of a group. -/
def captured (text : List Char) (p : Place) (index : Nat) : List Char :=
  match p.capture? index with
  | some c => (text.drop c.start).take (c.stop - c.start)
  | none => []

/-- What each directive of the format takes of a text, when the preferred match takes it all. -/
def scan (parts : List FormatPart) (value : String) : Option (List (Directive × List Char)) :=
  match (Node.sequence (nodesFrom 1 parts)).matchStart value with
  | none => none
  | some p =>
    let text := value.toList
    if p.pos = text.length then
      some ((fields parts).zipIdx.map fun (d, i) => (d, captured text p (i + 1)))
    else none

end FormatPart

end Reconcile.Calendar
