import Wireframe.Proofs.History.Changing
import Wireframe.Proofs.Session.Swaps

/-!
# The lock among calls

Of all the calls that share a session at most one has the lock of the history, and the lock is
taken exactly as long as one has it (`SharedSession.Locking`). So the history is free again when no
call is under way, whatever became of those that were (`SharedSession.Locking.unlocked`).
-/

namespace Wireframe

namespace Call

/-- Whether a call has the lock of the history. -/
def holdsLock : Call → Bool
  | .recording _ change => change.stage.holdsLock
  | _ => false

/-- A call that goes on to record has to wait for the lock first. -/
@[simp] theorem holdsLock_ofRevision (e : Except SessionError Revision) :
    (ofRevision e).holdsLock = false := by
  cases e <;> rfl

variable {σ : Type}

@[simp] theorem holdsLock_call (s : Session σ) (stamp : Stamp) (request : Request) :
    (request.call s stamp).holdsLock = false := by
  cases request with
  | load | loadText => exact holdsLock_ofRevision _
  | chat | generate | restore => rfl

/-- The lock stays as it is, is taken when it was free, or is given back. -/
theorem Step.lock [KeyValueStore σ] {s s' : Session σ} {c c' : Call} (spec : Step s c c' s') :
    c'.holdsLock = c.holdsLock ∧ s'.history.locked = s.history.locked ∨
    s.history.locked = false ∧ c'.holdsLock = true ∧ s'.history.locked = true ∨
    c.holdsLock = true ∧ c'.holdsLock = false ∧ s'.history.locked = false := by
  cases spec with
  | waits => exact .inl ⟨rfl, rfl⟩
  | found stamp id => exact .inl ⟨holdsLock_ofRevision _, rfl⟩
  | records step_eq => exact (ChangeInProgress.Step.of_eq step_eq).lock
  | fails step_eq ended | late step_eq ended | shows step_eq ended =>
    have lock := (ChangeInProgress.Step.of_eq step_eq).lock
    rwa [ended] at lock

end Call

namespace SharedSession

variable {σ : Type}

/-- Whether a call has the lock of the history. -/
def HoldsLock (w : SharedSession σ) (i : Nat) : Prop :=
  ∃ f, w.flights[i]? = some f ∧ f.call.holdsLock = true

/-- Whether the lock is taken by one call if it is taken, and else by none. -/
structure Locking (w : SharedSession σ) : Prop where
  locked_iff : w.session.history.locked = true ↔ ∃ i, w.HoldsLock i
  exclusive : ∀ {i j : Nat}, w.HoldsLock i → w.HoldsLock j → i = j

theorem locking_ofSession {s : Session σ} (free : s.history.locked = false) :
    (ofSession s).Locking where
  locked_iff := by simp [ofSession, HoldsLock, free]
  exclusive := by simp [ofSession, HoldsLock]

variable {w w' : SharedSession σ}

/-- Nothing changes where the same calls have the lock. -/
theorem Locking.congr (locking : w.Locking)
    (locked_eq : w'.session.history.locked = w.session.history.locked)
    (same : ∀ i, w'.HoldsLock i ↔ w.HoldsLock i) : w'.Locking where
  locked_iff := by simp only [locked_eq, locking.locked_iff, same]
  exclusive first second := locking.exclusive ((same _).1 first) ((same _).1 second)

section Setting

variable {i : Nat} {f f' : Flight} (flight : w.flights[i]? = some f)
  (flights_eq : w'.flights = w.flights.set i f')

include flight flights_eq

/-- A call that changed has the lock if it says so. -/
theorem holdsLock_set_self : w'.HoldsLock i ↔ f'.call.holdsLock = true := by
  obtain ⟨bound, -⟩ := List.getElem?_eq_some_iff.1 flight
  simp [HoldsLock, flights_eq, List.getElem?_set_self bound]

omit flight in
theorem holdsLock_set_ne {j : Nat} (other : j ≠ i) : w'.HoldsLock j ↔ w.HoldsLock j := by
  simp [HoldsLock, flights_eq, List.getElem?_set_ne other.symm]

/-- A call that keeps the lock as it is, takes it or gives it back leaves it with one call. -/
theorem Locking.set (locking : w.Locking)
    (lock : f'.call.holdsLock = f.call.holdsLock ∧
        w'.session.history.locked = w.session.history.locked ∨
      w.session.history.locked = false ∧ f'.call.holdsLock = true ∧
        w'.session.history.locked = true ∨
      f.call.holdsLock = true ∧ f'.call.holdsLock = false ∧
        w'.session.history.locked = false) : w'.Locking := by
  have self := holdsLock_set_self flight flights_eq
  have before : w.HoldsLock i ↔ f.call.holdsLock = true := by simp [HoldsLock, flight]
  have others : ∀ {j}, j ≠ i → (w'.HoldsLock j ↔ w.HoldsLock j) := holdsLock_set_ne flights_eq
  obtain ⟨holds_eq, locked_eq⟩ | ⟨free, takes, locked⟩ | ⟨holds, gives, unlocked⟩ := lock
  · refine locking.congr locked_eq fun j => ?_
    by_cases same : j = i
    · rw [same, self, before, holds_eq]
    · exact others same
  · -- nobody had the lock, and now this call does
    have only : ∀ j, w'.HoldsLock j ↔ j = i := by
      intro j
      by_cases same : j = i
      · simp [same, self, takes]
      · have none : ¬ ∃ k, w.HoldsLock k := by simp [← locking.locked_iff, free]
        simp only [others same, same, iff_false]
        exact fun held => none ⟨j, held⟩
    exact ⟨by simp [locked, only], fun first second => by rw [(only _).1 first, (only _).1 second]⟩
  · -- only this call had the lock, and now nobody does
    have none : ∀ j, ¬ w'.HoldsLock j := by
      intro j held
      by_cases same : j = i
      · rw [same, self, gives] at held
        cases held
      · exact same (locking.exclusive ((others same).1 held) (before.2 holds))
    exact ⟨by simp [unlocked, none], fun first => absurd first (none _)⟩

end Setting

/-- The history is free when no call is under way. -/
theorem Locking.unlocked (locking : w.Locking) (idle : ∀ f ∈ w.flights, ¬ f.UnderWay) :
    w.session.history.locked = false := by
  rw [← Bool.not_eq_true, locking.locked_iff]
  rintro ⟨i, f, flight, holds⟩
  refine idle f (List.mem_of_getElem? flight) fun result ended => ?_
  rw [ended] at holds
  cases holds

/-- No answer gives a call the lock or takes it away. -/
theorem holdsLock_hear (f : Flight) (s : Session σ) (a : Answer) :
    (f.hear s a).call.holdsLock = f.call.holdsLock := by
  unfold Flight.hear
  split
  · next call_eq => exact call_eq ▸ Call.holdsLock_ofRevision _
  · next call_eq => exact call_eq ▸ Call.holdsLock_ofRevision _
  · rfl

variable [KeyValueStore σ]

/-- Every event keeps the lock with one call. -/
theorem Locking.step (locking : w.Locking) : ∀ e, (w.step e).Locking
  | .begin stamp request => by
    refine locking.congr rfl fun i => ⟨?_, ?_⟩
    · rintro ⟨f, flight, holds⟩
      obtain old | ⟨-, rfl⟩ := flight_begin_iff.1 flight
      · exact ⟨f, old, holds⟩
      · -- a call that begins has no lock
        cases (Call.holdsLock_call w.session stamp request).symm.trans holds
    · rintro ⟨f, flight, holds⟩
      exact ⟨f, flight_begin_iff.2 (.inl flight), holds⟩
  | .replace d => locking.congr rfl fun _ => Iff.rfl
  | .answer i a => by
    cases flight : w.flights[i]? with
    | none => rwa [(step_eq_self flight).1]
    | some f =>
      rw [step_answer flight]
      exact locking.set flight rfl (.inl ⟨holdsLock_hear f _ a, rfl⟩)
  | .resume i => by
    cases flight : w.flights[i]? with
    | none => rwa [(step_eq_self flight).2]
    | some f =>
      rw [step_resume flight]
      exact locking.set flight rfl (f.call.step_spec w.session).lock
  | .renew _ => locking.congr rfl fun _ => Iff.rfl

/-- Every run keeps the lock with one call. -/
theorem Locking.run (locking : w.Locking) (events : List SessionEvent) : (w.run events).Locking :=
  run_induction (fun _ e locking => locking.step e) events locking

end SharedSession

end Wireframe
