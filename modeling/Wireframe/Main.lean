import Wireframe.Command.Check
import Wireframe.Command.Run

/-!
# The program

The program reads the files that its arguments and its configuration name, runs the command on
them, prints the outcome and writes back what changed. Under the name `uiforge-validate` it is
the checker. There is no network: the generation service is never reached.
-/

namespace Wireframe.Program

/-- The code of an operation that takes a file for a directory or the other way round. -/
def isDirectoryCode : UInt32 := 21

/-- The files with one more that was read from the disk, if it is there. -/
def readOne (files : Files) (l : Location) : IO Files := do
  try
    let text ← IO.FS.readFile l.text
    return files.put (Files.place l) text
  catch
    | .inappropriateType _ code _ =>
      if code = isDirectoryCode then
        return { files with directories := Files.place l :: files.directories }
      else return files
    | _ => return files

/-- The files with all that is on the way to a location. -/
def readInto (files : Files) (name : String) : IO Files :=
  let l : Location := ⟨name⟩
  (l.ancestors.reverse ++ [Location.ofSteps l.isAbsolute l.steps]).foldlM readOne files

/-- The names that may be variables: those of the configuration and all words of a text. -/
def candidateNames (text : String) : List String :=
  let words := text.toList.splitBy fun a b =>
    (a.isAlphanum || a = '_') && (b.isAlphanum || b = '_')
  Config.variableNames ++ words.map String.ofList

/-- The variables of the environment with these names. -/
def readVariables (names : List String) : IO Variables := do
  let found ← names.filterMapM fun name => do
    return (← IO.getEnv name).map fun value => (name, value)
  return found

/-- Hexadecimal digits of a number, filled up with zeros. -/
def hexDigits (count n : Nat) : String :=
  let digits := Nat.toDigits 16 (n % Nat.pow 16 count)
  String.ofList (List.replicate (count - digits.length) '0' ++ digits)

/-- A random id in five groups, as records have it. -/
def randomRecordId : IO String := do
  let part (count : Nat) : IO String := return hexDigits count (← IO.rand 0 (Nat.pow 16 count - 1))
  let variant := hexDigits 1 (← IO.rand 8 11)
  return String.intercalate "-"
    [← part 8, ← part 4, "4" ++ (← part 3), variant ++ (← part 3), ← part 12]

/-- The time, as a file gets it that is made now. -/
def readTime : IO Timestamp := do
  let (_, path) ← IO.FS.createTempFile
  let time := (← path.metadata).modified
  IO.FS.removeFile path
  return ⟨time.sec, time.nsec.toNat⟩

/-- A source of random ids that gives every place one of its own. -/
def randomIds : IO (Path → String) := do
  let seed ← IO.rand 0 (pow2 64 - 1)
  return fun place => hexDigits 10 (mixHash (UInt64.ofNat seed) (hash place.text)).toNat

/-- What commands find around them. -/
def readSurroundings (names : List String) : IO Surroundings := do
  return {
    environment := ← readVariables names
    fresh := ← randomIds
    stamp := ⟨← randomRecordId, ← readTime⟩
    assist := fun _ => .error .unreachable
    generate := fun _ => .error .unreachable }

/-- The text of a place. -/
def pathText (place : List String) : String :=
  match place with
  | "/" :: rest => "/" ++ String.intercalate "/" rest
  | other => String.intercalate "/" other

/-- Directories made and files written on the disk, unless they were there as they are. -/
def writeBack (before after : Files) : IO Unit := do
  after.directories.forM fun place => do
    unless before.directories.contains place do IO.FS.createDirAll (pathText place)
  after.texts.forM fun (place, text) => do
    if before.text? place ≠ some text then
      unless place.dropLast = [] do IO.FS.createDirAll (pathText place.dropLast)
      let temporary := pathText place ++ ".tmp"
      IO.FS.writeFile temporary text
      IO.FS.rename temporary (pathText place)

/-- The outcome printed. -/
def tell (o : Outcome) : IO UInt32 := do
  IO.print o.output
  IO.eprint o.errors
  return UInt32.ofNat o.code

/-- The checker on the disk. -/
def check (arguments : List String) : IO UInt32 := do
  let files ← (arguments.filter Checker.isFile).foldlM readInto .empty
  tell (Checker.run (← randomIds) files arguments)

/-- A command on the disk. -/
def command (arguments : List String) : IO UInt32 := do
  let settings ← readInto .empty Command.variablesFile.text
  let text := (settings.text? (Files.place Command.variablesFile)).getD ""
  let around ← readSurroundings (candidateNames text)
  let history := Command.historyOf (Command.config around settings) settings
  let named := arguments ++
    [history.store.directory.text, (history.store.location (FileStore.fileName History.key)).text]
  let files ← named.foldlM readInto settings
  let (outcome, after) := Command.run around files arguments
  writeBack files after
  tell outcome

end Wireframe.Program

open Wireframe in
def main (arguments : List String) : IO UInt32 := do
  let name := (← IO.appPath).fileName
  if name = some "uiforge-validate" then Program.check arguments
  else Program.command arguments
