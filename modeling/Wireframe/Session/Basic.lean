import Wireframe.Document.Ingest
import Wireframe.Generation.Reply
import Wireframe.Generation.Request
import Wireframe.History.Log
import Wireframe.Screen.Preview

/-!
# Sessions

A session shows one document at a time and keeps the conversation about it and the history. A
document is only ever replaced as a whole: the mount of the old one is torn down and the new one
gets a fresh mount. The documents that a session has shown are numbered from zero, so that a
call that began under one edition can tell whether it is still shown.
-/

namespace Wireframe

/-- Why a session refuses something. -/
inductive SessionError where
  | notJson
  | ingest (error : IngestError)
  | invalidProposal (issues : List Issue)
  | invalidSnapshot (id : String) (issues : List Issue)
  /-- Another document is shown by now. -/
  | superseded
  | recordNotFound (id : String)
  | service (error : ServiceError)
  | storage (error : StorageError)

/-- The wording of an error. -/
def SessionError.message : SessionError → String
  | notJson => "Invalid JSON: " ++ Json.refusal
  | ingest error => error.message
  | invalidProposal issues =>
    "Generation service proposed an invalid document: " ++ Issue.summary issues
  | invalidSnapshot id issues =>
    "History record " ++ id ++ " no longer validates: " ++ Issue.summary issues
  | superseded => "Document changed while the generation service was working; reply discarded"
  | recordNotFound id => "History record not found: " ++ id
  | service error => error.message
  | storage error => error.message

/-- A shown document with all that belongs to it. -/
structure Session (σ : Type) where
  policy : IngestPolicy
  strategies : List Strategy
  document : Document
  /-- The widgets of the document. -/
  mount : Mount
  /-- The mounts of the documents shown before, in their order. -/
  former : List Mount
  transcript : List ChatMessage
  history : History σ

namespace Session

variable {σ : Type}

/-- A session that begins with a document. -/
def start (policy : IngestPolicy) (strategies : List Strategy) (document : Document)
    (history : History σ) : Session σ :=
  ⟨policy, strategies, document, Mount.ofDocument document, [], [], history⟩

/-- The number of the shown document. -/
def edition (s : Session σ) : Nat :=
  s.former.length

/-- Another document is shown. -/
def replace (s : Session σ) (document : Document) : Session σ :=
  { s with
    document := document
    mount := Mount.ofDocument document
    former := s.former ++ [s.mount.teardown] }

/-- The mount of an edition, whether it is still shown or not. -/
def mountOf (s : Session σ) (edition : Nat) : Mount :=
  (s.former ++ [s.mount])[edition]?.getD ⟨[]⟩

/-- The mount of an edition changed. -/
def setMount (s : Session σ) (edition : Nat) (mount : Mount) : Session σ :=
  if edition = s.edition then { s with mount := mount }
  else { s with former := s.former.set edition mount }

/-- Every timer that is due fires. -/
def elapse (s : Session σ) (now : Nat) : Session σ :=
  { s with mount := s.mount.elapse now, former := s.former.map fun m => m.elapse now }

/-- The shown document as it looks. -/
def draw (s : Session σ) : Element :=
  Element.ofDocument s.document (some s.mount)

variable [KeyValueStore σ]

/-- The record of the history with an id. -/
def snapshot (s : Session σ) (id : String) : Except SessionError HistoryRecord :=
  match s.history.find? id with
  | .error e => .error (.storage e)
  | .ok none => .error (.recordNotFound id)
  | .ok (some record) => .ok record

/-- A record as it would look, whether it validates or not. -/
def preview (s : Session σ) (ids : Key → String) (id : String) : Except SessionError Element :=
  (s.snapshot id).map fun record => Element.ofJson ids record.document

/-- A session that takes up a history where it ended: with the document of the latest record if
that validates, else with the sample. -/
def resume (policy : IngestPolicy) (strategies : List Strategy) (history : History σ) :
    Except StorageError (Session σ) :=
  history.list.map fun records =>
    let latest := records.head?.bind fun r =>
      (Document.validate policy.validation r.document).toOption
    start policy strategies (latest.getD Document.sample) history

end Session

end Wireframe
