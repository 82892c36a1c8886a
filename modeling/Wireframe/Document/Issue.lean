import Wireframe.Document.Basic
import Wireframe.Json.Basic

/-!
# Paths and issues

An issue is a fault at a path into a raw value. A fault is a cause; its wording is
`Fault.message` and nothing else. Checks do not stop at a fault: a `Checked` value goes with
the issues found on the way to it, in the order in which they were found.
-/

namespace Wireframe

/-- One step into a JSON value. -/
inductive Segment where
  | key (name : String)
  | index (i : Nat)
deriving DecidableEq

/-- A place in a JSON value, the steps from the top. -/
structure Path where
  segments : List Segment
deriving DecidableEq

/-- The text of a step. -/
def Segment.text : Segment → String
  | .key name => name
  | .index i => String.ofList (Layout.digitChars i)

namespace Path

/-- The value itself. -/
def top : Path :=
  ⟨[]⟩

/-- A member of the object at a path. -/
def key (p : Path) (name : String) : Path :=
  ⟨p.segments ++ [.key name]⟩

/-- An item of the array at a path. -/
def index (p : Path) (i : Nat) : Path :=
  ⟨p.segments ++ [.index i]⟩

/-- Steps joined by points, a fixed word for the value itself. -/
def text (p : Path) : String :=
  if p.segments = [] then "(document)" else String.intercalate "." (p.segments.map Segment.text)

/-- The id of a node without one, made from its place. -/
def nodeId (p : Path) : String :=
  if p.segments = [] then "node" else p.text

end Path

/-- What is wrong at a path. -/
inductive Fault where
  /-- The version is there but not the one of the language. -/
  | versionMismatch
  /-- The type of a node is none of the known ones. -/
  | unknownType (received : String)
  /-- A required field is absent or null. -/
  | missing
  /-- A value has the wrong JSON type. -/
  | wrongType (expected received : JsonType)
  /-- A word is none of its field's choices. -/
  | notAChoice (words : List String) (received : String)
  /-- A node is nested beyond the bound. -/
  | tooDeep (bound : Nat)
deriving DecidableEq

/-- A fault and where it is. -/
structure Issue where
  path : Path
  fault : Fault
deriving DecidableEq

namespace Fault

/-- The wording of a fault. -/
def message : Fault → String
  | versionMismatch => "Invalid literal value, expected \"" ++ languageVersion ++ "\""
  | unknownType received =>
    "Invalid discriminator value. Expected " ++
      quotedWords (Choices.words NodeType) ++
      ", received '" ++ received ++ "'"
  | missing => "Required"
  | wrongType expected received =>
    "Expected " ++ expected.name ++ ", received " ++ received.name
  | notAChoice words received =>
    "Invalid enum value. Expected " ++ quotedWords words ++ ", received '" ++ received ++ "'"
  | tooDeep bound =>
    "Nesting exceeds maximum depth of " ++ String.ofList (Layout.digitChars bound)

end Fault

namespace Issue

/-- An issue as `path: message`. -/
def text (issue : Issue) : String :=
  issue.path.text ++ ": " ++ issue.fault.message

/-- All issues in one line. -/
def summary (issues : List Issue) : String :=
  String.intercalate "; " (issues.map text)

/-- Whether one of the issues is about the version. -/
def anyVersionMismatch (issues : List Issue) : Bool :=
  issues.any fun issue => issue.fault = .versionMismatch

end Issue

/-- A value and the issues found on the way to it. A faulty part has a stand-in. -/
structure Checked (α : Type) where
  value : α
  issues : List Issue

namespace Checked

/-- Checks run one after the other and their issues add up. -/
instance : Monad Checked where
  pure value := ⟨value, []⟩
  bind first next :=
    let second := next first.value
    ⟨second.value, first.issues ++ second.issues⟩

/-- One issue, and a value to go on with. -/
def report {α : Type} (path : Path) (fault : Fault) (standIn : α) : Checked α :=
  ⟨standIn, [⟨path, fault⟩]⟩

/-- The value if there is one and nothing was wrong, else all issues. -/
def result {α : Type} (checked : Checked (Option α)) : Except (List Issue) α :=
  match checked.value, checked.issues with
  | some value, [] => .ok value
  | _, issues => .error issues

end Checked

end Wireframe
