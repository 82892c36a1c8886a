/-!
# Pieces of a text

A text cut at marks that stand between its pieces. Two marks side by side have an empty piece
between them, so there is one piece more than there are marks.
-/

namespace Wireframe.Chars

/-- The characters between marks. -/
def pieces (isMark : Char → Bool) (cs : List Char) : List (List Char) :=
  cs.foldr (fun c parts =>
    if isMark c then [] :: parts
    else match parts with
      | part :: rest => (c :: part) :: rest
      | [] => [[c]]) [[]]

/-- The pieces that are not empty. -/
def filledPieces (isMark : Char → Bool) (cs : List Char) : List (List Char) :=
  (pieces isMark cs).filter fun part => part ≠ []

end Wireframe.Chars
