import Wireframe.Chars.Hexadecimal
import Wireframe.Chars.Pieces

/-!
# Sets of characters

A set of characters is kept as its runs of neighbours. Its text names every run by its first and
last code in hexadecimal digits with a hyphen between them, or by one code where the run is a
single character, and has blanks between the runs.
-/

namespace Wireframe

/-- The characters from a first to a last code. -/
structure CharRun where
  first : Nat
  last : Nat
deriving DecidableEq

namespace CharRun

/-- Whether the run has a code. -/
def has (run : CharRun) (code : Nat) : Bool :=
  run.first ≤ code && code ≤ run.last

/-- A run as the text of a set names it. -/
def ofChars? (cs : List Char) : Option CharRun :=
  match (Chars.pieces (· = '-') cs).map Chars.hexNumber? with
  | [some code] => some ⟨code, code⟩
  | [some first, some last] => some ⟨first, last⟩
  | _ => none

end CharRun

/-- A set of characters. -/
structure CharSet where
  runs : List CharRun

namespace CharSet

/-- Marks between the words of a table. -/
def isGap (c : Char) : Bool :=
  c = ' ' || c = '\n'

/-- The set that a text describes. -/
def ofText (text : String) : CharSet :=
  ⟨(Chars.filledPieces isGap text.toList).filterMap CharRun.ofChars?⟩

/-- Whether the set has a character. -/
def has (s : CharSet) (c : Char) : Bool :=
  s.runs.any fun run => run.has c.toNat

end CharSet

end Wireframe
