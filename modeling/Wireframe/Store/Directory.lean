import Wireframe.Files.Tree
import Wireframe.Store.Basic

/-!
# Stores in a directory

Every key has a file of its own in one directory. A text is written to a temporary file beside
it first, which then takes the place of the key's file, so a reader finds an old text or a new
one and never a part. Keys that are no plain names are refused before any file is touched.
-/

namespace Wireframe

/-- A store that keeps every text in a file of its own, all in one directory. -/
structure FileStore where
  directory : Location
  files : Files

namespace FileStore

/-- Characters that a key may have. -/
def isKeyChar (c : Char) : Bool :=
  c.isAlphanum || c = '.' || c = '-' || c = '_'

/-- Whether a key can be part of a file's name: it has none but harmless characters, and no dot
hides it. -/
def isKey (key : String) : Bool :=
  key ≠ "" && key.toList.all isKeyChar && key.toList.head? ≠ some '.'

/-- The name of a key's file. -/
def fileName (key : String) : String :=
  key ++ ".json"

/-- The name under which a key's file is written before it takes its place. -/
def temporaryName (key : String) : String :=
  Location.withExtension (fileName key) "json.tmp"

/-- The location of a name in the directory. -/
def location (s : FileStore) (name : String) : Location :=
  s.directory.below ⟨name⟩

/-- A result of file operations as one of the store. -/
def lift {α : Type} : Except FileError α → Except StorageError α
  | .ok a => .ok a
  | .error e => .error (.io e.message)

/-- The store with its directory, as far as that can be made. -/
def prepared (s : FileStore) : FileStore :=
  { s with files := (s.files.makeDirectory s.directory).1 }

/-- The text of a key's file, nothing if there is no file. -/
def load (s : FileStore) (key : String) : Except StorageError (Option String) :=
  if isKey key then
    match s.files.read (s.location (fileName key)) with
    | .ok text => .ok (some text)
    | .error .notFound => .ok none
    | .error e => .error (.io e.message)
  else .error (.invalidKey key)

/-- A text written beside a key's file and then moved into its place. -/
def save (s : FileStore) (key text : String) : Except StorageError FileStore :=
  if isKey key then do
    lift (s.files.makeDirectory s.directory).2
    let files ← lift (s.prepared.files.write (s.location (temporaryName key)) text)
    let files ← lift (files.rename (s.location (temporaryName key)) (s.location (fileName key)))
    return { s with files := files }
  else .error (.invalidKey key)

/-- The store after a save, even one that failed: its directory is made before that shows. -/
def afterSave (s : FileStore) (key text : String) : FileStore :=
  match s.save key text with
  | .ok saved => saved
  | .error (.io _) => s.prepared
  | .error _ => s

instance : KeyValueStore FileStore where
  load := load
  save := save

end FileStore

end Wireframe
