import Reconcile.Expectation.Expression
import Reconcile.Expectation.Fault
import Reconcile.Pattern.Matcher
import Reconcile.Pattern.Reader

/-!
# Embedded patterns

An expected value can hold patterns inside literal text. The markers that open and close a
pattern cut the value into pieces; the first piece is literal, and from there on patterns and
literal pieces alternate. Literal pieces are escaped, so the whole is one pattern.
-/

namespace Reconcile.Expectation

/-- The length of the marker at the front of a text, 0 when there is none. -/
def markerLength (s : List Char) : Nat :=
  if ('@' :: opening).isPrefixOf s then opening.length + 1
  else if opening.isPrefixOf s then opening.length
  else if closing.isPrefixOf s then closing.length
  else 0

/-- The pieces between the markers; there is always one. -/
def cutAtMarkers : List Char → List (List Char)
  | [] => [[]]
  | c :: rest => match markerLength (c :: rest) with
    | 0 => match cutAtMarkers rest with
      | p :: ps => (c :: p) :: ps
      | [] => [[c]]
    | n + 1 => [] :: cutAtMarkers (rest.drop n)
  termination_by s => s.length
  decreasing_by all_goals grind

/-- The pieces as one pattern, every other one escaped. -/
def joinPieces (literal : Bool) : List (List Char) → List Char
  | [] => []
  | p :: rest => (if literal then Pattern.escape p else p) ++ joinPieces (!literal) rest

/-- The pattern text of an expected value. -/
def patternText (expected : String) : List Char :=
  joinPieces true (cutAtMarkers expected.toList)

/-- A fault of a pattern as a fault of the expected value that holds it. -/
def patternFault (expected : String) (pattern : List Char) (f : Pattern.Fault) : Fault :=
  match f with
  | .wideLookBehind | .countTooLarge | .countTooLong _ | .asciiAndUnicode => .breakdown (.patternLimit f)
  | _ => .malformed (.badPattern expected pattern f)

/-- The pattern of an expected value. -/
def embeddedPattern (expected : String) : Except Fault Pattern.Node :=
  let text := patternText expected
  (Pattern.read text).mapError (patternFault expected text)

end Reconcile.Expectation
