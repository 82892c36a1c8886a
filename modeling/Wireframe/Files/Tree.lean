import Wireframe.Files.Location

/-!
# A tree of files

Files with their texts, and the directories that were made. A directory exists as well where a
file stands below it, and so do the directories above the one where relative locations start.
Names have a greatest length, and locations too.

Every operation takes a location, goes the way that it describes name by name, and may fail in
the ways in which a file system does. A directory on the way has to be there even where the next
name is two dots and leads out of it again.
-/

namespace Wireframe

/-- Why a file operation fails. -/
inductive FileError where
  | notFound
  | alreadyThere
  | notDirectory
  | isDirectory
  | nameTooLong
deriving DecidableEq

/-- The wording of an error. -/
def FileError.message : FileError → String
  | notFound => "No such file or directory (os error 2)"
  | alreadyThere => "File exists (os error 17)"
  | notDirectory => "Not a directory (os error 20)"
  | isDirectory => "Is a directory (os error 21)"
  | nameTooLong => "File name too long (os error 36)"

/-- Files by the names that lead to them, and directories. -/
structure Files where
  texts : List (List String × String)
  directories : List (List String)
  /-- The most bytes of a name. -/
  longestName : Nat := 255
  /-- The most bytes of a location. -/
  longestLocation : Nat := 4095

namespace Files

/-- No files at all. -/
def empty : Files where
  texts := []
  directories := []

/-! ## Places -/

/-- The place where the way of a location starts. -/
def start (l : Location) : List String :=
  if l.isAbsolute then ["/"] else []

/-- The place above a place. The root is above itself. -/
def above (place : List String) : List String :=
  if place = ["/"] then place
  else match place.getLast? with
    | none | some ".." => place ++ [".."]
    | some _ => place.dropLast

/-- The place one name further. -/
def next (place : List String) (name : String) : List String :=
  if name = "." then place
  else if name = ".." then above place
  else place ++ [name]

/-- The place that a location leads to if nothing is in the way. -/
def place (l : Location) : List String :=
  l.names.foldl next (start l)

/-- The text of the file at a place. -/
def text? (files : Files) (place : List String) : Option String :=
  List.lookup place files.texts

/-- Whether a place is the start of relative locations, above it, or the root. -/
def isOutside (place : List String) : Bool :=
  place = ["/"] || place.all (· = "..")

/-- Whether there is a directory at a place. -/
def hasDirectory (files : Files) (place : List String) : Bool :=
  isOutside place || files.directories.any (fun d => place.isPrefixOf d) ||
    files.texts.any fun entry => place.isPrefixOf entry.1 && place ≠ entry.1

/-- Whether there is anything at a place. -/
def has (files : Files) (place : List String) : Bool :=
  files.hasDirectory place || (files.text? place).isSome

/-! ## Ways -/

/-- The place one name further, where something has to be. -/
def enter (files : Files) (place : List String) (name : String) :
    Except FileError (List String) :=
  if !files.hasDirectory place then .error .notDirectory
  else if name = "." ∨ name = ".." then .ok (next place name)
  else if files.longestName < name.utf8ByteSize then .error .nameTooLong
  else if files.has (next place name) then .ok (next place name)
  else .error .notFound

/-- The place at the end of a way. -/
def walk (files : Files) (start : List String) (names : List String) :
    Except FileError (List String) :=
  names.foldlM files.enter start

/-- Whether a location can be looked up at all. -/
def check (files : Files) (l : Location) : Except FileError Unit :=
  if l.text = "" then .error .notFound
  else if files.longestLocation < l.text.utf8ByteSize then .error .nameTooLong
  else .ok ()

/-- The place of what is at a location. -/
def find (files : Files) (l : Location) : Except FileError (List String) := do
  files.check l
  let place ← files.walk (start l) l.names
  if l.endsInSlash && !files.hasDirectory place then .error .notDirectory
  else .ok place

/-- The place for what may be made at a location, in a directory that is there. There is none if
the last name is made of dots or the location is the root. -/
def seat (files : Files) (l : Location) : Except FileError (Option (List String)) := do
  files.check l
  match l.names.getLast? with
  | none => .ok none
  | some name =>
    let place ← files.walk (start l) l.names.dropLast
    if !files.hasDirectory place then .error .notDirectory
    else if name = "." ∨ name = ".." then .ok none
    else if files.longestName < name.utf8ByteSize then .error .nameTooLong
    else .ok (some (next place name))

/-! ## Operations -/

/-- Whether there is a directory at a location. -/
def isDirectory (files : Files) (l : Location) : Bool :=
  match files.find l with
  | .ok place => files.hasDirectory place
  | .error _ => false

/-- The text of a file. -/
def read (files : Files) (l : Location) : Except FileError String := do
  let place ← files.find l
  match files.text? place with
  | some text => .ok text
  | none => .error .isDirectory

/-- The files with a text at a place. -/
def put (files : Files) (place : List String) (text : String) : Files :=
  { files with texts := (place, text) :: files.texts.filter fun entry => entry.1 ≠ place }

/-- A file written in a directory that is there. -/
def write (files : Files) (l : Location) (text : String) : Except FileError Files := do
  match ← files.seat l with
  | none => .error .isDirectory
  | some place =>
    if l.endsInSlash || files.hasDirectory place then .error .isDirectory
    else .ok (files.put place text)

/-- A directory made in a directory that is there. -/
def makeOne (files : Files) (l : Location) : Except FileError Files := do
  match ← files.seat l with
  | none => .error .alreadyThere
  | some place =>
    if files.has place then .error .alreadyThere
    else .ok { files with directories := place :: files.directories }

/-- The first of the locations made a directory after those behind it, each where it is missing.
What was made stays made if one fails. -/
def makeChain (files : Files) : List Location → Files × Except FileError Unit
  | [] => (files, .ok ())
  | l :: above =>
    let settled (files : Files) : Files × Except FileError Unit :=
      match files.makeOne l with
      | .ok made => (made, .ok ())
      | .error e => (files, if files.isDirectory l then .ok () else .error e)
    match files.makeOne l with
    | .error .notFound =>
      match files.makeChain above with
      | (made, .ok ()) => settled made
      | failed => failed
    | _ => settled files

/-- A directory made with all directories above it, unless it is there. -/
def makeDirectory (files : Files) (l : Location) : Files × Except FileError Unit :=
  if l.text = "" then (files, .ok ()) else files.makeChain (l :: l.ancestors)

/-- A file under a new name, in place of what had the name before. -/
def rename (files : Files) (source target : Location) : Except FileError Files := do
  let old ← files.find source
  match files.text? old, ← files.seat target with
  | some text, some new =>
    if files.hasDirectory new then .error .isDirectory
    else
      let left := files.texts.filter fun entry => entry.1 ≠ old
      .ok ({ files with texts := left }.put new text)
  | _, _ => .error .isDirectory

end Files

end Wireframe
