import Reconcile.Text.Hexadecimal

/-!
# Percent codes

Texts in which a percent sign with two hexadecimal digits stands for a byte. The bytes of a run are
read together; what they do not spell stays as it is written.
-/

namespace Reconcile.Text

/-- The bytes of the codes that a text begins with, as many as there are. -/
def codedBytes : List Char → List UInt8
  | '%' :: a :: b :: rest => match hexValue? a, hexValue? b with
    | some m, some n => (m * 16 + n).toUInt8 :: codedBytes rest
    | _, _ => []
  | _ => []

/-- The text that percent codes stand for. The fuel is at least the length of the text. -/
def decodedFrom : Nat → List Char → List Char
  | 0, cs => cs
  | _, [] => []
  | fuel + 1, c :: rest =>
    let bytes := codedBytes (c :: rest)
    match String.fromUTF8? ⟨bytes.toArray⟩ with
    | some s =>
      if bytes.isEmpty then c :: decodedFrom fuel rest
      else s.toList ++ decodedFrom fuel ((c :: rest).drop (3 * bytes.length))
    | none => c :: decodedFrom fuel rest

/-- The text that percent codes stand for. -/
def percentDecoded (cs : List Char) : List Char := decodedFrom cs.length cs

end Reconcile.Text
