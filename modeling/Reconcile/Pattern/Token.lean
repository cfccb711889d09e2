/-!
# Tokens of patterns

The text of a pattern as its reader sees it: single characters and characters behind a backslash,
each with its position. A backslash that ends the text has nothing to stand before. A text can be
taken literally by putting a backslash before every character that means something in a pattern.
-/

namespace Reconcile.Pattern

/-- A character, a character behind a backslash, or a backslash at the end. -/
inductive Sign where
  | plain (c : Char)
  | escaped (c : Char)
  | dangling
  deriving DecidableEq, Repr

/-- A sign with its position in the text. -/
structure Token where
  pos : Nat
  sign : Sign
  deriving DecidableEq, Repr

/-- The number of characters of a token. -/
def Token.length (t : Token) : Nat :=
  match t.sign with
  | .escaped _ => 2
  | _ => 1

/-- A token as it stands in the text. -/
def Token.chars (t : Token) : List Char :=
  match t.sign with
  | .plain c => [c]
  | .escaped c => ['\\', c]
  | .dangling => ['\\']

/-- The tokens of a text, the first at the given position. -/
def tokensFrom : Nat → List Char → List Token
  | _, [] => []
  | n, ['\\'] => [⟨n, .dangling⟩]
  | n, '\\' :: c :: rest => ⟨n, .escaped c⟩ :: tokensFrom (n + 2) rest
  | n, c :: rest => ⟨n, .plain c⟩ :: tokensFrom (n + 1) rest

/-- The tokens of a text. -/
def tokens (s : List Char) : List Token := tokensFrom 0 s

/-- The characters that mean something in a pattern, or in a pattern with comments. -/
def specialChars : List Char := "()[]\x7b\x7d?*+-|^$\\.&~# \t\n\r\x0b\x0c".toList

/-- The text with a backslash before every special character: the pattern that takes exactly this
    text. -/
def escape : List Char → List Char
  | [] => []
  | c :: rest => if specialChars.contains c then '\\' :: c :: escape rest else c :: escape rest

end Reconcile.Pattern
