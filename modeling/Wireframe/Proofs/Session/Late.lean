import Wireframe.Proofs.History.Recording
import Wireframe.Proofs.Session.Shared

/-!
# Calls that come late

A call that waits for the lock of the history does not look at the document while it waits. If
another one is shown meanwhile, the revision is recorded all the same, and only then the call finds
that it is late (`SharedSession.run_late`).
-/

namespace Wireframe

namespace SharedSession

variable {σ : Type}

/-- The state when a call has come to some point, with the history that it left. -/
def goOn (w : SharedSession σ) (i : Nat) (f : Flight) (history : History σ) (c : Call) :
    SharedSession σ :=
  { w with
    session := { w.session with history := history }
    flights := w.flights.set i { f with call := c } }

variable [KeyValueStore σ] {w : SharedSession σ} {i : Nat} {f : Flight} {r : Revision}
  {change change' : ChangeInProgress} {h h' : History σ}

omit [KeyValueStore σ] in
theorem goOn_self (flight : w.flights[i]? = some f) : w.goOn i f w.session.history f.call = w := by
  obtain ⟨bound, rfl⟩ := List.getElem?_eq_some_iff.1 flight
  change SharedSession.mk w.session (w.flights.set i w.flights[i]) w.swaps = w
  rw [List.set_getElem_self]

/-- A change that is not over leaves its call recording. -/
theorem step_goOn (bound : i < w.flights.length) (step_eq : change.step h = (change', h'))
    (unfinished : ∀ result, change'.stage ≠ .over result) :
    (w.goOn i f h (.recording r change)).step (.resume i) = w.goOn i f h' (.recording r change') := by
  have flight : (w.goOn i f h (.recording r change)).flights[i]? =
      some { f with call := .recording r change } := List.getElem?_set_self bound
  rw [step_resume flight]
  obtain ⟨c, stage⟩ := change'
  cases stage <;> simp_all [goOn, Call.step, record]

/-- A change that is over too late leaves its call superseded. -/
theorem step_goOn_late (bound : i < w.flights.length) (step_eq : change.step h = (change', h'))
    {effect : Bool} (ended : change'.stage = .over (.ok effect))
    (past : r.base.all (· = w.session.edition) = false) :
    (w.goOn i f h (.recording r change)).step (.resume i) =
      w.goOn i f h' (.over (.error .superseded)) := by
  have flight : (w.goOn i f h (.recording r change)).flights[i]? =
      some { f with call := .recording r change } := List.getElem?_set_self bound
  have late : Session.settle { w.session with history := h' } r = (.error .superseded, _) :=
    Session.settle_of_past past
  rw [step_resume flight]
  simp [goOn, Call.step, step_eq, ended, late, record]

/-- A call that comes to the lock when its edition is past has its revision recorded all the same,
and then finds that it is late. -/
theorem run_late {rs : List HistoryRecord} (flight : w.flights[i]? = some f)
    (call_eq : f.call = .recording r (.ofChange (.append r.record)))
    (free : w.session.history.locked = false)
    (past : r.base.all (· = w.session.edition) = false)
    (read : w.session.history.records = .ok rs)
    (saved : w.session.history.save
      (History.latest w.session.history.limit (rs ++ [r.record])) = .ok h) :
    w.run [.resume i, .resume i, .resume i, .resume i] =
      w.goOn i f h (.over (.error .superseded)) := by
  obtain ⟨bound, -⟩ := List.getElem?_eq_some_iff.1 flight
  obtain ⟨locks, reads, saves, unlocks⟩ := ChangeInProgress.append_steps free read saved
  calc w.run [.resume i, .resume i, .resume i, .resume i]
    _ = (w.goOn i f w.session.history (.recording r (.ofChange (.append r.record)))).run
        [.resume i, .resume i, .resume i, .resume i] := by rw [← call_eq, goOn_self flight]
    _ = w.goOn i f h (.over (.error .superseded)) := by
      simp only [run_cons, run_nil]
      rw [step_goOn bound locks (by simp), step_goOn bound reads (by simp),
        step_goOn bound saves (by simp), step_goOn_late bound unlocks rfl past]

end SharedSession

end Wireframe
