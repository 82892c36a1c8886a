import Wireframe.Chars.Pieces

/-!
# Locations of files

A location is a text with slashes between names. Two texts name one location if they have the
same steps: doubled and trailing slashes do not count, nor does a dot, unless it comes first.
Where a location leads is another matter, for every name on the way has to be there, the dots
included.
-/

namespace Wireframe

/-- A text that names a file or a directory. -/
structure Location where
  text : String
deriving DecidableEq

namespace Location

/-- The texts between slashes. -/
def pieces (l : Location) : List (List Char) :=
  Chars.pieces (· = '/') l.text.toList

/-- Whether the location starts at the root of all directories. -/
def isAbsolute (l : Location) : Bool :=
  l.text.toList.head? = some '/'

/-- Whether the location can only be a directory. -/
def endsInSlash (l : Location) : Bool :=
  l.text.toList.getLast? = some '/'

/-- The names on the way, dots among them. -/
def names (l : Location) : List String :=
  (l.pieces.filter fun part => part ≠ []).map String.ofList

/-- The steps from directory to directory. -/
def steps (l : Location) : List String :=
  let counts (part : List Char) : Bool := part ≠ [] && part ≠ ['.']
  ((l.pieces.take 1).filter (fun part => part ≠ []) ++ (l.pieces.drop 1).filter counts).map
    String.ofList

/-- Whether two texts name one location. -/
def same (a b : Location) : Bool :=
  a.isAbsolute = b.isAbsolute && a.steps = b.steps

/-- The location with some steps, from the root or not. -/
def ofSteps (absolute : Bool) (steps : List String) : Location :=
  ⟨(if absolute then "/" else "") ++ String.intercalate "/" steps⟩

/-- The locations of the directories above, the nearest first. -/
def ancestors (l : Location) : List Location :=
  (List.range' 1 (l.steps.length - 1)).reverse.map fun count =>
    ofSteps l.isAbsolute (l.steps.take count)

/-- A location below a directory, or the location itself if it is absolute. -/
def below (directory l : Location) : Location :=
  if l.isAbsolute || directory.text = "" then l
  else if directory.endsInSlash then ⟨directory.text ++ l.text⟩
  else ⟨directory.text ++ "/" ++ l.text⟩

/-! ## Extensions -/

/-- The part of a name before its last dot, or the whole name if nothing stands before that. -/
def stem (name : String) : String :=
  match (name.toList.reverse.dropWhile (· ≠ '.')).tail with
  | [] => name
  | front => String.ofList front.reverse

/-- A name with another extension in place of its last one. What leads to a directory has none. -/
def withExtension (name extension : String) : String :=
  if name = "" ∨ name = "." ∨ name = ".." then name
  else stem name ++ if extension = "" then "" else "." ++ extension

end Location

end Wireframe
