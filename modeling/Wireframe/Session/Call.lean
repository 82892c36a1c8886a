import Wireframe.History.Change
import Wireframe.Session.Revision

/-!
# Calls in flight

A call on a session can be interrupted while it waits for the service, for a record, and at
every point of its change of the history. Other calls may replace the document meanwhile. The
code between two such points is one step: `Call.answerEdit` and `Call.answerGeneration` take in
a reply, `Call.step` does everything else. A call ends in the step in which its change of the
history ends: there the revision is shown, or found to be late.
-/

namespace Wireframe

/-- A call under way. -/
inductive Call where
  /-- The service was asked for an edit of an edition. -/
  | awaitingEdit (base : Nat) (stamp : Stamp) (instruction : String)
  /-- The service was asked for a generation from an edition. -/
  | awaitingGeneration (base : Nat) (stamp : Stamp)
  /-- A record is looked up to be restored. -/
  | awaitingSnapshot (stamp : Stamp) (id : String)
  /-- A revision is being recorded. -/
  | recording (revision : Revision) (change : ChangeInProgress)
  /-- The call is over. -/
  | over (result : Except SessionError Revision)

namespace Call

/-- A call that goes on to record a revision, or ends without one. -/
def ofRevision : Except SessionError Revision → Call
  | .error e => .over (.error e)
  | .ok r => .recording r (.ofChange (.append r.record))

variable {σ : Type}

/-! ## Beginning -/

/-- A raw value is to be loaded. -/
def load (s : Session σ) (stamp : Stamp) (source : SourceTag) (raw : Json) : Call :=
  ofRevision ((s.ingested stamp source raw).map Prod.snd)

/-- A text is to be loaded. -/
def loadText (s : Session σ) (stamp : Stamp) (source : SourceTag) (text : String) : Call :=
  ofRevision ((s.ingestedText stamp source text).map Prod.snd)

/-- The service is asked for an edit of the shown document. -/
def chat (s : Session σ) (stamp : Stamp) (instruction : String) : Call :=
  .awaitingEdit s.edition stamp instruction

/-- The service is asked for a generation from the shown document. -/
def generate (s : Session σ) (stamp : Stamp) : Call :=
  .awaitingGeneration s.edition stamp

/-- A record is to be restored. -/
def restore (stamp : Stamp) (id : String) : Call :=
  .awaitingSnapshot stamp id

/-! ## Going on -/

/-- A call for an edit after the reply. Other calls do not change. -/
def answerEdit (s : Session σ) (reply : Except ServiceError AssistReply) : Call → Call
  | .awaitingEdit base stamp instruction =>
    ofRevision (s.edited base stamp instruction reply)
  | other => other

/-- A call for a generation after the reply. Other calls do not change. -/
def answerGeneration (s : Session σ) (reply : Except ServiceError GenerateReply) : Call → Call
  | .awaitingGeneration base stamp => ofRevision (s.generated base stamp reply)
  | other => other

variable [KeyValueStore σ]

/-- The call and the session at the next point where the call can be interrupted. A call that
waits for the service stays there. -/
def step (c : Call) (s : Session σ) : Call × Session σ :=
  match c with
  | .awaitingSnapshot stamp id => (ofRevision (s.restored stamp id), s)
  | .recording revision change =>
    let (change, history) := change.step s.history
    let s := { s with history := history }
    match change.stage with
    | .over (.error e) => (.over (.error (.storage e)), s)
    | .over (.ok _) =>
      let (result, s) := s.settle revision
      (.over result, s)
    | _ => (.recording revision change, s)
  | other => (other, s)

/-- Whether the call waits until its record is saved. -/
def isSaving : Call → Bool
  | .recording _ ⟨_, .saving _⟩ => true
  | _ => false

end Call

end Wireframe
