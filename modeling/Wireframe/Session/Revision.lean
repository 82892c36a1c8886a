import Wireframe.Session.Basic

/-!
# Revisions

A revision is a document that has been accepted and is about to be shown. It is recorded in the
history first and shown afterwards. One that answers a question about the shown document names
the edition that it answers to: it is shown only while that edition is.

Documents come in four ways: loaded, proposed as an edit, generated, and restored from the
history. Each has a function that makes the revision and one that carries it through when
nothing else happens meanwhile. The latter give the session afterwards in every case, also
where they fail.
-/

namespace Wireframe

/-- A document on its way to be shown. -/
structure Revision where
  document : Document
  record : HistoryRecord
  /-- The edition that has to be shown still, if any. -/
  base : Option Nat
  /-- What the conversation gains. -/
  messages : List ChatMessage

namespace Session

variable {σ : Type}

/-! ## Making revisions -/

/-- A raw value taken in. What was converted is recorded as such. -/
def ingested (s : Session σ) (stamp : Stamp) (source : SourceTag) (raw : Json) :
    Except SessionError (Origin × Revision) :=
  match ingest s.policy s.strategies raw with
  | .error e => .error (.ingest e)
  | .ok i =>
    let tag := match i.origin with
      | .validated => source
      | .converted _ => .converted
    .ok (i.origin, ⟨i.document, .ofDocument stamp tag i.document, none, []⟩)

/-- A text taken in. -/
def ingestedText (s : Session σ) (stamp : Stamp) (source : SourceTag) (text : String) :
    Except SessionError (Origin × Revision) :=
  match Json.parse? text with
  | none => .error .notJson
  | some raw => s.ingested stamp source raw

/-- A proposal that answers to an edition: valid as a whole, and in time. -/
def reviewed (s : Session σ) (base : Nat) (raw : Json) : Except SessionError Document :=
  match Document.validate s.policy.validation raw with
  | .error issues => .error (.invalidProposal issues)
  | .ok document => if s.edition = base then .ok document else .error .superseded

/-- What is asked for an edit. -/
def assistRequest (s : Session σ) (instruction : String) : AssistRequest :=
  ⟨s.document, s.transcript ++ [.ofUser instruction]⟩

/-- What is asked for a generation. -/
def generateRequest (s : Session σ) : GenerateRequest :=
  ⟨s.document⟩

/-- The messages of an edit: the instruction, and the summary if there is one. -/
def editMessages (instruction : String) (summary : Option String) : List ChatMessage :=
  .ofUser instruction :: (summary.map fun text => ChatMessage.mk .assistant text).toList

/-- An edit proposed for an edition. -/
def edited (s : Session σ) (base : Nat) (stamp : Stamp) (instruction : String) :
    Except ServiceError AssistReply → Except SessionError Revision
  | .error e => .error (.service e)
  | .ok reply => do
    let document ← s.reviewed base reply.document
    let record := { HistoryRecord.ofDocument stamp .chat document with summary := reply.summary }
    return ⟨document, record, some base, editMessages instruction reply.summary⟩

/-- A generation proposed for an edition. -/
def generated (s : Session σ) (base : Nat) (stamp : Stamp) :
    Except ServiceError GenerateReply → Except SessionError Revision
  | .error e => .error (.service e)
  | .ok reply => do
    let document ← s.reviewed base reply.document
    let record :=
      { HistoryRecord.ofDocument stamp .hybrid document with
        generatedCode := reply.generatedCode
        qaText := reply.qaText }
    return ⟨document, record, some base, []⟩

variable [KeyValueStore σ]

/-- A record of the history, checked again. -/
def restored (s : Session σ) (stamp : Stamp) (id : String) : Except SessionError Revision := do
  let snapshot ← s.snapshot id
  match Document.validate s.policy.validation snapshot.document with
  | .error issues => .error (.invalidSnapshot id issues)
  | .ok document =>
    let record :=
      { HistoryRecord.ofDocument stamp .restored document with summary := snapshot.summary }
    return ⟨document, record, none, []⟩

/-! ## Carrying revisions through -/

omit [KeyValueStore σ] in
/-- A recorded revision is shown, unless it answers to an edition of the past. -/
def settle (s : Session σ) (r : Revision) : Except SessionError Revision × Session σ :=
  if r.base.all (· = s.edition) then
    (.ok r, { s.replace r.document with transcript := s.transcript ++ r.messages })
  else (.error .superseded, s)

/-- A revision is recorded and shown. -/
def commit (s : Session σ) (r : Revision) : Except SessionError Revision × Session σ :=
  match s.history.append r.record with
  | .error e => (.error (.storage e), s)
  | .ok history => { s with history := history }.settle r

/-- A revision is committed if there is one. -/
def commitResult (s : Session σ) :
    Except SessionError Revision → Except SessionError Revision × Session σ
  | .error e => (.error e, s)
  | .ok r => s.commit r

/-- An ingested revision is committed if there is one. -/
def commitIngested (s : Session σ) :
    Except SessionError (Origin × Revision) →
      Except SessionError (Origin × Revision) × Session σ
  | .error e => (.error e, s)
  | .ok (origin, r) =>
    let (result, s) := s.commit r
    (result.map fun r => (origin, r), s)

/-- A raw value is taken in and shown. -/
def load (s : Session σ) (stamp : Stamp) (source : SourceTag) (raw : Json) :
    Except SessionError (Origin × Revision) × Session σ :=
  s.commitIngested (s.ingested stamp source raw)

/-- A text is taken in and shown. -/
def loadText (s : Session σ) (stamp : Stamp) (source : SourceTag) (text : String) :
    Except SessionError (Origin × Revision) × Session σ :=
  s.commitIngested (s.ingestedText stamp source text)

/-- The service is asked for an edit and answers at once. -/
def chat (s : Session σ) (service : AssistRequest → Except ServiceError AssistReply)
    (stamp : Stamp) (instruction : String) : Except SessionError Revision × Session σ :=
  s.commitResult
    (s.edited s.edition stamp instruction (service (s.assistRequest instruction)))

/-- The service is asked for a generation and answers at once. -/
def generate (s : Session σ) (service : GenerateRequest → Except ServiceError GenerateReply)
    (stamp : Stamp) : Except SessionError Revision × Session σ :=
  s.commitResult (s.generated s.edition stamp (service s.generateRequest))

/-- A record of the history is shown again. -/
def restore (s : Session σ) (stamp : Stamp) (id : String) :
    Except SessionError Revision × Session σ :=
  s.commitResult (s.restored stamp id)

end Session

end Wireframe
