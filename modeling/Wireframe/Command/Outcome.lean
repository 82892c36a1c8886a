import Wireframe.Files.Tree
import Wireframe.Session.Basic

/-!
# Outcomes of commands

What a command leaves behind: an exit code and two texts. A failure is told in one line, and
where something else caused it, that follows indented.
-/

namespace Wireframe

/-- How a command ends. -/
structure Outcome where
  code : Nat
  output : String
  errors : String
deriving DecidableEq

namespace Outcome

/-- Success with some output. -/
def printed (output : String) : Outcome :=
  ⟨0, output, ""⟩

/-- Success with a note beside the output. -/
def noted (output note : String) : Outcome :=
  ⟨0, output, note⟩

end Outcome

/-- Why a command fails. -/
inductive CommandFailure where
  | unreadable (file : String) (error : FileError)
  | notJson (file : String)
  | ingest (error : IngestError)
  | session (error : SessionError)
  | storage (error : StorageError)
  | noRecord (id : String)

namespace CommandFailure

/-- The wording of a failure. -/
def message : CommandFailure → String
  | unreadable file _ => "read '" ++ file ++ "'"
  | notJson file => "parse '" ++ file ++ "'"
  | ingest error => error.message
  | session error => error.message
  | storage error => error.message
  | noRecord id => "no history record " ++ id

/-- What went wrong in the store, if it was the store that failed. -/
def storageError? : CommandFailure → Option StorageError
  | session (.storage error) => some error
  | storage error => some error
  | unreadable _ _ | notJson _ | ingest _ | session _ | noRecord _ => none

/-- What a failing store was told. -/
def storageCause? : StorageError → Option String
  | .io reason => some reason
  | _ => none

/-- What caused a failure, where that is something else. -/
def cause? : CommandFailure → Option String
  | unreadable _ error => some error.message
  | notJson _ => some Json.refusal
  | session .notJson => some Json.refusal
  | session (.storage error) => storageCause? error
  | storage error => storageCause? error
  | ingest _ | session _ | noRecord _ => none

/-- How a failure ends a command. -/
def outcome (f : CommandFailure) : Outcome :=
  let cause := match f.cause? with
    | some cause => "\n\nCaused by:\n    " ++ cause
    | none => ""
  ⟨1, "", "Error: " ++ f.message ++ cause ++ "\n"⟩

end CommandFailure

end Wireframe
