import Reconcile.Expectation.Function
import Reconcile.Text.Blank
import Reconcile.Text.Word

/-!
# Expressions

An expected value is an expression or a literal. It is read in this order: text with embedded
patterns, a call of a function, a sentinel, and otherwise a literal. A call is written
`@{name(first, second)}` with or without the leading sign; its arguments are separated by commas
outside of single quotes, and an argument in quotes keeps its text as it stands.
-/

namespace Reconcile.Expectation

open Reconcile.Text

/-- An argument as it was written. -/
structure Argument where
  text : String
  quoted : Bool
  deriving DecidableEq, Repr

/-- What an expected value asks for. -/
inductive Expression where
  | pattern (raw : String)
  | call (f : Function) (arguments : List Argument)
  | sentinel (s : Sentinel)
  | literal (text : Option String)
  deriving DecidableEq, Repr

/-! ## 1. Arguments -/

/-- The argument in a piece of text: without its surrounding blanks, and without its quotes when
    it stands between two. -/
def Argument.ofChars (s : List Char) : Argument :=
  match trimChars s with
  | '\'' :: rest =>
    if rest.getLast? == some '\'' then ⟨String.ofList rest.dropLast, true⟩
    else ⟨String.ofList ('\'' :: rest), false⟩
  | cs => ⟨String.ofList cs, false⟩

/-- The pieces between the commas that stand outside of quotes; there is always one. -/
def pieces (inQuotes : Bool) : List Char → List (List Char)
  | [] => [[]]
  | c :: rest =>
    if c == ',' && !inQuotes then [] :: pieces inQuotes rest
    else
      match pieces (inQuotes != (c == '\'')) rest with
      | p :: ps => (c :: p) :: ps
      | [] => [[c]]

/-- The arguments in a list of parameters. Blanks alone are no argument. -/
def splitArguments (parameters : List Char) : List Argument :=
  if (dropBlanks parameters).isEmpty then []
  else (pieces false parameters).map Argument.ofChars

/-! ## 2. Calls -/

/-- The text up to a closing bracket that ends it, with blanks before the brace behind it. -/
def beforeClosing (s : List Char) : Option (List Char) :=
  match s.reverse with
  | '}' :: rest => match dropBlanks rest with
    | ')' :: inner => some inner.reverse
    | _ => none
  | _ => none

/-- The name and the parameters of a call, given the text behind the opening brace. -/
def callParts? (s : List Char) : Option (String × List Char) :=
  let body := dropBlanks s
  let name := body.takeWhile isWord
  match dropBlanks (body.dropWhile isWord) with
  | '(' :: rest => (beforeClosing rest).map fun parameters => (String.ofList name, parameters)
  | _ => none

/-- The call a text without surrounding blanks is. -/
def readCall? (s : List Char) : Option (Function × List Argument) :=
  let body := match s with
    | '@' :: rest => rest
    | _ => s
  match body with
  | '{' :: rest => do
    let (name, parameters) ← callParts? rest
    let f ← Function.ofName? name
    return (f, splitArguments parameters)
  | _ => none

/-! ## 3. Expected values -/

/-- What begins an embedded pattern, without the sign that may stand before it. -/
def opening : List Char := "\x7bpattern('".toList

/-- What ends an embedded pattern. -/
def closing : List Char := "')\x7d".toList

/-- Whether one text stands somewhere in another. -/
def occursIn (part : List Char) : List Char → Bool
  | [] => part.isEmpty
  | c :: rest => part.isPrefixOf (c :: rest) || occursIn part rest

/-- Reads an expected value. -/
def Expression.ofText (s : String) : Expression :=
  let cs := s.toList
  let trimmed := trimChars cs
  if occursIn opening cs then .pattern s
  else match readCall? trimmed with
    | some (f, arguments) => .call f arguments
    | none => match Sentinel.ofToken? (String.ofList trimmed) with
      | some word => .sentinel word
      | none => .literal (some s)

/-- Reads an expected value; an absent one is a literal. -/
def Expression.ofCell : Option String → Expression
  | none => .literal none
  | some s => Expression.ofText s

namespace Expression

def isLiteral : Expression → Bool
  | .literal _ => true
  | _ => false

/-- The name of the kind of an expression. -/
def kindName : Expression → String
  | .pattern _ => "pattern"
  | .call f _ => f.name
  | .sentinel _ => "sentinel"
  | .literal _ => "literal"

/-- The function that is called, if any. -/
def function? : Expression → Option Function
  | .call f _ => some f
  | _ => none

/-- The arguments; only calls have some. -/
def arguments : Expression → List Argument
  | .call _ as => as
  | _ => []

/-- The name that messages about arguments give to an expression. -/
def callName (e : Expression) : String := (e.function?.map Function.name).getD "None"

end Expression

/-- Whether an expected value is an expression and not a literal. -/
def isExpression (expected : Option String) : Bool := !(Expression.ofCell expected).isLiteral

end Reconcile.Expectation
