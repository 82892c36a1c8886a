import Wireframe.Proofs.Session.Locking
import Wireframe.Store.Memory

/-!
# Calls that fail

A call that fails leaves the session as it was : the document, the mounts, the transcript and the
history. Where it is carried through at once this is seen from each of the five functions. Where it
is interrupted it leaves no trace up to the moment when its record is saved (`Call.Traceless`), and
from then on it cannot fail while it is the only one (`Session.failed_calls_change_nothing`).
-/

namespace Wireframe

/-! ## Calls carried through at once -/

namespace Session

variable {σ : Type} [KeyValueStore σ] {s : Session σ} {e : SessionError}

/-- A revision in time that is not committed changes nothing. -/
theorem commit_of_error {r : Revision} (current : r.base.all (· = s.edition) = true)
    (failed : (s.commit r).1 = .error e) : (s.commit r).2 = s := by
  unfold commit at failed ⊢
  cases appended : s.history.append r.record with
  | error e => rfl
  | ok history =>
    simp only [appended] at failed
    rw [settle_of_current (s := { s with history := history }) current] at failed
    cases failed

theorem commitResult_of_error {made : Except SessionError Revision}
    (current : ∀ r, made = .ok r → r.base.all (· = s.edition) = true)
    (failed : (s.commitResult made).1 = .error e) : (s.commitResult made).2 = s := by
  cases made with
  | error e => rfl
  | ok r => exact commit_of_error (current r rfl) failed

theorem commitIngested_of_error {made : Except SessionError (Origin × Revision)}
    (free : ∀ origin r, made = .ok (origin, r) → r.base = none)
    (failed : (s.commitIngested made).1 = .error e) : (s.commitIngested made).2 = s := by
  obtain e | ⟨origin, r⟩ := made
  · rfl
  · have current : r.base.all (· = s.edition) = true := by simp [free origin r rfl]
    cases result : (s.commit r).1 with
    | error e => exact commit_of_error current result
    | ok r' => simp [commitIngested, result, Except.map] at failed

end Session

/-! ## Calls interrupted -/

variable {σ : Type}

/-- Whether a call that has come so far, from one state of the session to another, leaves no trace
if it fails. -/
def Call.Traceless (s s' : Session σ) : Call → Prop
  | .awaitingEdit base _ _ | .awaitingGeneration base _ => s' = s ∧ base = s.edition
  | .awaitingSnapshot _ _ | .over (.error _) => s' = s
  | .recording r change =>
    r.base.all (· = s.edition) = true ∧
      ∃ history, s' = { s with history := history } ∧ change.stage.Traceless s.history history
  | .over (.ok _) => True

namespace Call

/-- A call that goes on with a revision in time has left no trace so far. -/
theorem traceless_ofRevision {s : Session σ} {made : Except SessionError Revision}
    (current : ∀ r, made = .ok r → r.base.all (· = s.edition) = true) :
    (ofRevision made).Traceless s s := by
  cases made with
  | error e => rfl
  | ok r => exact ⟨current r rfl, s.history, rfl, rfl⟩

/-- A call that begins has left no trace so far. -/
theorem traceless_call (s : Session σ) (stamp : Stamp) (request : Request) :
    (request.call s stamp).Traceless s s := by
  cases request with
  | load source raw =>
    refine traceless_ofRevision fun r made => ?_
    obtain ⟨origin, made⟩ := map_snd_eq_ok_iff.1 made
    simp [Session.base_of_ingested made]
  | loadText source text =>
    refine traceless_ofRevision fun r made => ?_
    obtain ⟨origin, made⟩ := map_snd_eq_ok_iff.1 made
    simp [Session.base_of_ingestedText made]
  | chat | generate => exact ⟨rfl, rfl⟩
  | restore => rfl

/-- No answer leaves a trace. -/
theorem traceless_hear {s s' : Session σ} {f : Flight} (traceless : f.call.Traceless s s')
    (a : Answer) : (f.hear s' a).call.Traceless s s' := by
  unfold Flight.hear
  split
  · next call_eq =>
    rw [call_eq] at traceless ⊢
    obtain ⟨rfl, rfl⟩ := traceless
    exact traceless_ofRevision fun r made => by simp [Session.base_of_edited made]
  · next call_eq =>
    rw [call_eq] at traceless ⊢
    obtain ⟨rfl, rfl⟩ := traceless
    exact traceless_ofRevision fun r made => by simp [Session.base_of_generated made]
  · exact traceless

/-- No step of a call leaves a trace if the call fails in the end, provided that no other call
had the lock. -/
theorem Step.traceless [KeyValueStore σ] {s s' s'' : Session σ} {c c' : Call}
    (free : s.history.locked = false) (spec : Step s' c c' s'') (traceless : c.Traceless s s') :
    c'.Traceless s s'' := by
  cases spec with
  | waits => exact traceless
  | found stamp id =>
    obtain rfl := traceless
    exact traceless_ofRevision fun r made => by simp [Session.base_of_restored made]
  | records step_eq =>
    obtain ⟨current, history, rfl, traceless⟩ := traceless
    exact ⟨current, _, rfl, (ChangeInProgress.Step.of_eq step_eq).traceless free traceless⟩
  | fails step_eq failed =>
    obtain ⟨current, history, rfl, traceless⟩ := traceless
    have traceless := (ChangeInProgress.Step.of_eq step_eq).traceless free traceless
    rw [failed] at traceless
    exact congrArg (fun h => { s with history := h }) traceless
  | late step_eq recorded past =>
    obtain ⟨current, history, rfl, -⟩ := traceless
    exact absurd (current.symm.trans past) (by simp)
  | shows => trivial

end Call

/-- Whether an event is a step of a call that has begun, or an answer to it. -/
def SessionEvent.Concerns (i : Nat) : SessionEvent → Prop
  | .answer j _ | .resume j => j = i
  | .begin _ _ | .replace _ | .renew _ => False

namespace SharedSession

variable [KeyValueStore σ] {s : Session σ} {i : Nat}

/-- A call that goes on alone leaves no trace if it fails. -/
theorem traceless_step (free : s.history.locked = false) {w : SharedSession σ} {f : Flight}
    (flight : w.flights[i]? = some f) (traceless : f.call.Traceless s w.session) :
    ∀ {e : SessionEvent}, e.Concerns i →
      ∃ f', (w.step e).flights[i]? = some f' ∧ f'.call.Traceless s (w.step e).session
  | .answer _ a, rfl => by
    obtain ⟨bound, -⟩ := List.getElem?_eq_some_iff.1 flight
    rw [step_answer flight]
    exact ⟨_, List.getElem?_set_self bound, Call.traceless_hear traceless a⟩
  | .resume _, rfl => by
    obtain ⟨bound, -⟩ := List.getElem?_eq_some_iff.1 flight
    rw [step_resume flight]
    exact ⟨_, List.getElem?_set_self bound, (f.call.step_spec w.session).traceless free traceless⟩

theorem traceless_run (free : s.history.locked = false) :
    ∀ (events : List SessionEvent) {w : SharedSession σ} {f : Flight},
      (∀ e ∈ events, e.Concerns i) → w.flights[i]? = some f → f.call.Traceless s w.session →
      ∃ f', (w.run events).flights[i]? = some f' ∧ f'.call.Traceless s (w.run events).session
  | [], _, f, _, flight, traceless => ⟨f, flight, traceless⟩
  | e :: rest, _, _, only, flight, traceless => by
    obtain ⟨f', flight, traceless⟩ := traceless_step free flight traceless (only e (by simp))
    exact traceless_run free rest (fun e mem => only e (by simp [mem])) flight traceless

end SharedSession

namespace Session

variable [KeyValueStore σ]

/-- A call that fails while no other one is under way leaves the session as it was. This holds of
each kind of call carried through at once, on any session whatever it shows and whatever its store
holds. It holds as well of a call that is interrupted wherever it can be, on any state that a
session whose history is free comes to, whatever calls there were before. -/
theorem failed_calls_change_nothing (s : Session σ) :
    (∀ stamp source raw e, (s.load stamp source raw).1 = .error e →
      (s.load stamp source raw).2 = s) ∧
    (∀ stamp source text e, (s.loadText stamp source text).1 = .error e →
      (s.loadText stamp source text).2 = s) ∧
    (∀ service stamp instruction e, (s.chat service stamp instruction).1 = .error e →
      (s.chat service stamp instruction).2 = s) ∧
    (∀ service stamp e, (s.generate service stamp).1 = .error e →
      (s.generate service stamp).2 = s) ∧
    (∀ stamp id e, (s.restore stamp id).1 = .error e → (s.restore stamp id).2 = s) ∧
    (s.history.locked = false → ∀ (before events : List SessionEvent) stamp request,
      let w := (SharedSession.ofSession s).run before
      let w' := (w.step (.begin stamp request)).run events
      (∀ f ∈ w.flights, ¬ f.UnderWay) → (∀ e ∈ events, e.Concerns w.flights.length) →
      ∀ f e, w'.flights[w.flights.length]? = some f → f.call = .over (.error e) →
        w'.session = w.session) := by
  refine ⟨?_, ?_, ?_, ?_, ?_, ?_⟩
  · intro stamp source raw e failed
    exact commitIngested_of_error (fun _ _ => base_of_ingested) failed
  · intro stamp source text e failed
    exact commitIngested_of_error (fun _ _ => base_of_ingestedText) failed
  · intro service stamp instruction e failed
    exact commitResult_of_error (fun r made => by simp [base_of_edited made]) failed
  · intro service stamp e failed
    exact commitResult_of_error (fun r made => by simp [base_of_generated made]) failed
  · intro stamp id e failed
    exact commitResult_of_error (fun r made => by simp [base_of_restored made]) failed
  · intro free before events stamp request w w' idle alone f e flight failed
    have locking : w.Locking := (SharedSession.locking_ofSession free).run before
    have begun : (w.step (.begin stamp request)).flights[w.flights.length]? =
        some (.begin w.session stamp request) :=
      SharedSession.flight_begin_iff.2 (.inr ⟨rfl, rfl⟩)
    obtain ⟨f', flight', traceless⟩ := SharedSession.traceless_run (locking.unlocked idle) events
      alone begun (Call.traceless_call w.session stamp request)
    obtain rfl := Option.some.inj (flight.symm.trans flight')
    rwa [failed] at traceless

/-- A document loaded into a history that cannot be read is refused with the lock in hand, after an
edit that was refused by the service, and nothing has changed. -/
theorem load_into_corrupt_history_changes_nothing :
    let stamp : Stamp := ⟨"record", ⟨0, 0⟩⟩
    let form : Document := .ofRoot (.group (.form ⟨"root"⟩) [])
    let s : Session MemoryStore := .start ⟨false, true, .structural⟩ Strategy.standard .sample
      (.ofStore ⟨[(History.key, "corrupt")]⟩ 30)
    let before : List SessionEvent :=
      [.begin stamp (.chat "Empty it"), .answer 0 (.edit (.error .unreachable))]
    let events : List SessionEvent := [.resume 1, .resume 1]
    let w := (SharedSession.ofSession s).run before
    let w' := (w.step (.begin stamp (.load .upload form.toJson))).run events
    s.history.locked = false ∧ (∀ f ∈ w.flights, ¬ f.UnderWay) ∧
      (∀ e ∈ events, e.Concerns w.flights.length) ∧
      (∃ f, w'.flights[w.flights.length]? = some f ∧
        f.call = .over (.error (.storage .corrupt))) ∧
      w'.session = w.session := by
  intro stamp form s before events w w'
  have idle : ∀ f ∈ w.flights, ¬ f.UnderWay := by
    intro f mem underWay
    obtain rfl := List.mem_singleton.1 mem
    exact underWay _ rfl
  have alone : ∀ e ∈ events, e.Concerns w.flights.length := by
    simp [events, SessionEvent.Concerns, w, before, SharedSession.step, SharedSession.ofSession]
  obtain ⟨f, flight, failed⟩ : ∃ f, w'.flights[w.flights.length]? = some f ∧
      f.call = .over (.error (.storage .corrupt)) :=
    ⟨_, rfl, rfl⟩
  exact ⟨rfl, idle, alone, ⟨f, flight, failed⟩, (failed_calls_change_nothing s).2.2.2.2.2 rfl before
    events stamp _ idle alone f _ flight failed⟩

end Session

end Wireframe
