import Wireframe.Document.Decoding

/-!
# Requests to the generation service

An edit is asked for with the current document and the conversation so far, a generation with
the document alone.
-/

namespace Wireframe

/-- Who says something in a conversation. -/
inductive Role where
  | user
  | assistant
deriving DecidableEq

instance : Choices Role where
  all := [.user, .assistant]
  word
    | .user => "user"
    | .assistant => "assistant"

/-- One message of a conversation. -/
structure ChatMessage where
  role : Role
  text : String
deriving DecidableEq

namespace ChatMessage

/-- A message of the user. -/
def ofUser (text : String) : ChatMessage :=
  ⟨.user, text⟩

/-- The written form of a message. -/
def toJson (m : ChatMessage) : Json :=
  .object [("role", .ofChoice m.role), ("text", .string m.text)]

/-- The fields of a message in their order. -/
def fieldNames : List String := ["role", "text"]

/-- A message from its written form. -/
def decode? (raw : Json) : Option ChatMessage := do
  let members ← raw.record? fieldNames
  let role ← (members.get? "role").bind Json.choice?
  let text ← members.string? "text"
  some ⟨role, text⟩

end ChatMessage

/-- A request for an edit. -/
structure AssistRequest where
  document : Document
  instructions : List ChatMessage

/-- A request for a generation. -/
structure GenerateRequest where
  document : Document

/-- The written form of a request for an edit. -/
def AssistRequest.toJson (r : AssistRequest) : Json :=
  .object [("document", r.document.toJson),
    ("instructions", .array (r.instructions.map ChatMessage.toJson))]

/-- The written form of a request for a generation. -/
def GenerateRequest.toJson (r : GenerateRequest) : Json :=
  .object [("document", r.document.toJson)]

end Wireframe
