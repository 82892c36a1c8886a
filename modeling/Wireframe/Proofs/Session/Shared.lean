import Wireframe.Proofs.Results
import Wireframe.Session.Call

/-!
# Sessions shared by calls

Any number of calls share a session. What happens is a list of events in whatever order : a call
begins, the service answers one, one goes on to its next interruption, the document is replaced
by hand, or other ids are given from now on. A shared session keeps beside the calls what is known
about them and a log of all replacements, the n-th one being that of edition n.

`Call.Step` lists all that one step of a call can do.
-/

namespace Wireframe

/-! ## Steps of a call -/

/-- The session with other ids for nodes that have none. -/
def Session.withIds {σ : Type} (s : Session σ) (ids : Path → String) : Session σ :=
  { s with policy := { s.policy with validation := { s.policy.validation with ids := ids } } }

/-- The session that shows a recorded revision. -/
def Session.showing {σ : Type} (s : Session σ) (r : Revision) : Session σ :=
  { s.replace r.document with transcript := s.transcript ++ r.messages }

namespace Session

variable {σ : Type} (s : Session σ)

@[simp] theorem edition_replace (d : Document) : (s.replace d).edition = s.edition + 1 := by
  simp [replace, edition]

@[simp] theorem document_replace (d : Document) : (s.replace d).document = d :=
  rfl

@[simp] theorem transcript_replace (d : Document) : (s.replace d).transcript = s.transcript :=
  rfl

@[simp] theorem edition_showing (r : Revision) : (s.showing r).edition = s.edition + 1 :=
  s.edition_replace r.document

@[simp] theorem document_showing (r : Revision) : (s.showing r).document = r.document :=
  rfl

@[simp] theorem transcript_showing (r : Revision) :
    (s.showing r).transcript = s.transcript ++ r.messages :=
  rfl

@[simp] theorem edition_history (h : History σ) : { s with history := h }.edition = s.edition :=
  rfl

/-- A revision in time is shown. -/
theorem settle_of_current {s : Session σ} {r : Revision}
    (current : r.base.all (· = s.edition) = true) : s.settle r = (.ok r, s.showing r) := by
  rw [settle, if_pos current]
  rfl

/-- A late revision is not shown. -/
theorem settle_of_past {s : Session σ} {r : Revision}
    (past : r.base.all (· = s.edition) = false) : s.settle r = (.error .superseded, s) := by
  rw [settle, if_neg (by simp [past])]

end Session

namespace Call

variable {σ : Type} [KeyValueStore σ]

/-- All that a step of a call can do, by the call before and the call and the session after. -/
inductive Step (s : Session σ) : Call → Call → Session σ → Prop
  | waits (c : Call) (still : ∀ stamp id, c ≠ .awaitingSnapshot stamp id)
    (unrecorded : ∀ r change, c ≠ .recording r change) : Step s c c s
  | found (stamp : Stamp) (id : String) :
    Step s (.awaitingSnapshot stamp id) (ofRevision (s.restored stamp id)) s
  | records {r : Revision} {change change' : ChangeInProgress} {history : History σ}
    (step_eq : change.step s.history = (change', history))
    (unfinished : ∀ result, change'.stage ≠ .over result) :
    Step s (.recording r change) (.recording r change') { s with history := history }
  | fails {r : Revision} {change change' : ChangeInProgress} {history : History σ}
    {e : StorageError} (step_eq : change.step s.history = (change', history))
    (failed : change'.stage = .over (.error e)) :
    Step s (.recording r change) (.over (.error (.storage e))) { s with history := history }
  | late {r : Revision} {change change' : ChangeInProgress} {history : History σ} {effect : Bool}
    (step_eq : change.step s.history = (change', history))
    (recorded : change'.stage = .over (.ok effect))
    (past : r.base.all (· = s.edition) = false) :
    Step s (.recording r change) (.over (.error .superseded)) { s with history := history }
  | shows {r : Revision} {change change' : ChangeInProgress} {history : History σ} {effect : Bool}
    (step_eq : change.step s.history = (change', history))
    (recorded : change'.stage = .over (.ok effect))
    (current : r.base.all (· = s.edition) = true) :
    Step s (.recording r change) (.over (.ok r)) (Session.showing { s with history := history } r)

/-- A step does one of these things. -/
theorem step_spec (c : Call) (s : Session σ) : Step s c (c.step s).1 (c.step s).2 := by
  cases c with
  | awaitingSnapshot stamp id => exact .found stamp id
  | recording r change =>
    rcases step_eq : change.step s.history with ⟨change', history⟩
    simp only [step, step_eq]
    split
    · next e failed => exact .fails step_eq failed
    · next effect recorded =>
      cases current : r.base.all (· = s.edition) with
      | true =>
        rw [Session.settle_of_current (s := { s with history := history }) current]
        exact .shows step_eq recorded current
      | false =>
        rw [Session.settle_of_past (s := { s with history := history }) current]
        exact .late step_eq recorded current
    · next unfailed unrecorded =>
      refine .records step_eq ?_
      rintro (e | effect) finished
      · exact unfailed e finished
      · exact unrecorded effect finished
  | _ => exact .waits _ (by simp) (by simp)

end Call

/-! ## Calls and what is known about them -/

/-- What is asked of a session. -/
inductive Request where
  | load (source : SourceTag) (raw : Json)
  | loadText (source : SourceTag) (text : String)
  | chat (instruction : String)
  | generate
  | restore (id : String)

/-- What the service answers. -/
inductive Answer where
  | edit (reply : Except ServiceError AssistReply)
  | generation (reply : Except ServiceError GenerateReply)

namespace Request

/-- Whether the service is asked. -/
def asksService : Request → Bool
  | chat _ | generate => true
  | load _ _ | loadText _ _ | restore _ => false

/-- The document that a request is made about. It is the one that the service is sent. -/
def document {σ : Type} (s : Session σ) : Request → Document
  | chat instruction => (s.assistRequest instruction).document
  | generate => s.generateRequest.document
  | load _ _ | loadText _ _ | restore _ => s.document

/-- The call that begins with a request. -/
def call {σ : Type} (s : Session σ) (stamp : Stamp) : Request → Call
  | load source raw => .load s stamp source raw
  | loadText source text => .loadText s stamp source text
  | chat instruction => .chat s stamp instruction
  | generate => .generate s stamp
  | restore id => .restore stamp id

end Request

/-- A call with its request and the answer of the service. -/
structure Flight where
  request : Request
  /-- The edition that was shown when the call began. -/
  edition : Nat
  /-- The document that the request is about. -/
  document : Document
  answer : Option Answer
  call : Call

/-- A replacement of the shown document. -/
structure Swap where
  /-- The call that made it, none if it was made by hand. -/
  maker : Option Nat
  /-- The document that was shown before. -/
  former : Document
  /-- The document that is shown since. -/
  document : Document

namespace Flight

variable {σ : Type}

/-- A call that begins. -/
def begin (s : Session σ) (stamp : Stamp) (request : Request) : Flight :=
  ⟨request, s.edition, request.document s, none, request.call s stamp⟩

/-- A call that the service answers. Only the answer that it waits for reaches it. -/
def hear (f : Flight) (s : Session σ) (a : Answer) : Flight :=
  match f.call, a with
  | .awaitingEdit _ _ _, .edit reply =>
    { f with answer := some a, call := f.call.answerEdit s reply }
  | .awaitingGeneration _ _, .generation reply =>
    { f with answer := some a, call := f.call.answerGeneration s reply }
  | _, _ => f

/-- The messages of a call that succeeds : for a chat the message of the user, then the summary
if the reply had one. -/
def block (f : Flight) : List ChatMessage :=
  match f.request, f.answer with
  | .chat instruction, some (.edit (.ok reply)) =>
    .ofUser instruction :: (reply.summary.map fun text => ⟨.assistant, text⟩).toList
  | _, _ => []

end Flight

/-! ## Runs -/

/-- A session and the calls on it. -/
structure SharedSession (σ : Type) where
  session : Session σ
  /-- The calls in the order in which they began, those that are over too. -/
  flights : List Flight
  /-- The replacements in their order. -/
  swaps : List Swap

/-- What can happen to a shared session. -/
inductive SessionEvent where
  /-- A call begins. -/
  | begin (stamp : Stamp) (request : Request)
  /-- The document is replaced by hand. -/
  | replace (document : Document)
  /-- The service answers a call. -/
  | answer (i : Nat) (a : Answer)
  /-- A call goes on to its next interruption. -/
  | resume (i : Nat)
  /-- Other ids are given from here on to nodes that have none. Ids made at random are others each
  time that a document is validated, which no step of a call does more than once. -/
  | renew (ids : Path → String)

namespace SharedSession

variable {σ : Type}

/-- A session without calls. -/
def ofSession (s : Session σ) : SharedSession σ :=
  ⟨s, [], []⟩

/-- A new state of the session, noted in the log if another document is shown. -/
def record (w : SharedSession σ) (maker : Option Nat) (s : Session σ) : SharedSession σ :=
  { w with
    session := s
    swaps := if s.edition = w.session.edition then w.swaps
      else w.swaps ++ [⟨maker, w.session.document, s.document⟩] }

/-- The calls that replaced the document, in the order of the replacements. -/
def makers (w : SharedSession σ) : List Nat :=
  w.swaps.filterMap Swap.maker

/-- The messages of the call that made a replacement. -/
def blockOf (w : SharedSession σ) (swap : Swap) : List ChatMessage :=
  ((swap.maker.bind fun i => w.flights[i]?).map Flight.block).getD []

/-- The log grows with the editions. -/
theorem swaps_record {w : SharedSession σ} {maker : Option Nat} {s : Session σ}
    (edition_eq : s.edition = w.session.edition + 1) :
    (w.record maker s).swaps = w.swaps ++ [⟨maker, w.session.document, s.document⟩] :=
  if_neg (by omega)

variable [KeyValueStore σ]

/-- The state after an event. -/
def step (w : SharedSession σ) : SessionEvent → SharedSession σ
  | .begin stamp request =>
    { w with flights := w.flights ++ [Flight.begin w.session stamp request] }
  | .replace document => w.record none (w.session.replace document)
  | .answer i a =>
    match w.flights[i]? with
    | none => w
    | some f => { w with flights := w.flights.set i (f.hear w.session a) }
  | .resume i =>
    match w.flights[i]? with
    | none => w
    | some f =>
      let (call, s) := f.call.step w.session
      { w.record (some i) s with flights := w.flights.set i { f with call := call } }
  | .renew ids => { w with session := w.session.withIds ids }

/-- A call that begins comes behind the others. -/
theorem flight_begin_iff {w : SharedSession σ} {stamp : Stamp} {request : Request} {i : Nat}
    {f : Flight} :
    (w.step (.begin stamp request)).flights[i]? = some f ↔
      w.flights[i]? = some f ∨ i = w.flights.length ∧ f = .begin w.session stamp request :=
  getElem?_concat_eq_some_iff

/-- An answer changes the call that it is for. -/
theorem step_answer {w : SharedSession σ} {i : Nat} {f : Flight} {a : Answer}
    (flight : w.flights[i]? = some f) :
    w.step (.answer i a) = { w with flights := w.flights.set i (f.hear w.session a) } := by
  simp only [step, flight]

/-- A call that goes on changes with the session. -/
theorem step_resume {w : SharedSession σ} {i : Nat} {f : Flight}
    (flight : w.flights[i]? = some f) :
    w.step (.resume i) =
      { w.record (some i) (f.call.step w.session).2 with
        flights := w.flights.set i { f with call := (f.call.step w.session).1 } } := by
  simp only [step, flight]

/-- Nothing happens to a call that has not begun. -/
theorem step_eq_self {w : SharedSession σ} {i : Nat} (unknown : w.flights[i]? = none) :
    (∀ a, w.step (.answer i a) = w) ∧ w.step (.resume i) = w := by
  simp [step, unknown]

/-- The state after a list of events. -/
def run (w : SharedSession σ) (events : List SessionEvent) : SharedSession σ :=
  events.foldl step w

@[simp] theorem run_nil (w : SharedSession σ) : w.run [] = w :=
  rfl

@[simp] theorem run_cons (w : SharedSession σ) (e : SessionEvent) (rest : List SessionEvent) :
    w.run (e :: rest) = (w.step e).run rest :=
  rfl

theorem run_append (w : SharedSession σ) (before after : List SessionEvent) :
    w.run (before ++ after) = (w.run before).run after :=
  List.foldl_append

/-- What every event keeps, every run keeps. -/
theorem run_induction {P : SharedSession σ → Prop} (keep : ∀ w e, P w → P (w.step e)) :
    ∀ (events : List SessionEvent) {w : SharedSession σ}, P w → P (w.run events)
  | [], _, h => h
  | e :: rest, w, h => run_induction keep rest (keep w e h)

end SharedSession

end Wireframe
