/-!
# Pieces

The pieces of a text between separators. There is always one, and joining the pieces with the
separator gives the text back.
-/

namespace Reconcile.Text

/-- The pieces of a text between the given characters. -/
def pieces (separator : Char) : List Char → List (List Char)
  | [] => [[]]
  | c :: rest =>
    if c == separator then [] :: pieces separator rest
    else match pieces separator rest with
      | p :: ps => (c :: p) :: ps
      | [] => [[c]]

end Reconcile.Text
