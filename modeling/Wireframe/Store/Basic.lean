/-!
# Stores

A store keeps texts under keys. Loading a key that was never saved gives nothing; a save
replaces what the key had.
-/

namespace Wireframe

/-- Why a store fails. -/
inductive StorageError where
  /-- The medium fails. -/
  | io (reason : String)
  /-- What is stored cannot be read as what it should be. -/
  | corrupt
  | invalidKey (key : String)
deriving DecidableEq

namespace StorageError

/-- What is said of a stored text that is no list of records. -/
def corruption : String :=
  "the stored text is not a list of records"

/-- The wording of an error. -/
def message : StorageError → String
  | io reason => "Storage I/O error: " ++ reason
  | corrupt => "Corrupt history payload: " ++ corruption
  | invalidKey key => "Invalid storage key: " ++ key

end StorageError

/-- A place that keeps texts under keys. A store of bytes is one as long as all that it keeps is
text in UTF-8 : contents that are no text are left out. -/
class KeyValueStore (σ : Type) where
  load : σ → String → Except StorageError (Option String)
  save : σ → String → String → Except StorageError σ

end Wireframe
