import Wireframe.Proofs.History.Recording
import Wireframe.Proofs.Session.Late
import Wireframe.Proofs.Session.Locking
import Wireframe.Store.Memory

/-!
# What the history says of calls

A call that has a revision to record has it accepted once and for all : while it waits for the lock
and the store, another call may replace the document, and the record is saved nevertheless
(`SharedSession.run_late`). So the history has the records of all successful calls, each once, and
besides them those of the calls that were superseded late (`SharedSession.history_logs_calls`) : a
call that fails may leave a record (`SharedSession.late_edit_leaves_record`).

`SharedSession.Tracked` is the invariant. What is saved is what was read with a new record behind
it, since a call that is about to save has the lock, so that no other call saves in between.
-/

namespace Wireframe

variable {σ : Type}

/-! ## Records of revisions -/

namespace Session

variable {s : Session σ} {stamp : Stamp} {r : Revision}

theorem keeps_of_ingested {source : SourceTag} {raw : Json} {origin : Origin}
    (time : stamp.time.Valid) (made : s.ingested stamp source raw = .ok (origin, r)) :
    r.record.Keeps := by
  obtain ⟨d, -, rfl⟩ := ingested_eq_ok_iff.1 made
  exact HistoryRecord.keeps_ofDocument time _ d

theorem keeps_of_ingestedText {source : SourceTag} {text : String} {origin : Origin}
    (time : stamp.time.Valid) (made : s.ingestedText stamp source text = .ok (origin, r)) :
    r.record.Keeps := by
  obtain ⟨raw, -, made⟩ := ingestedText_eq_ok_iff.1 made
  exact keeps_of_ingested time made

theorem keeps_of_edited {base : Nat} {instruction : String}
    {answer : Except ServiceError AssistReply} (time : stamp.time.Valid)
    (made : s.edited base stamp instruction answer = .ok r) : r.record.Keeps := by
  obtain ⟨reply, d, -, -, rfl⟩ := edited_eq_ok_iff.1 made
  obtain ⟨time, settled, valid⟩ := HistoryRecord.keeps_ofDocument time .chat d
  exact ⟨time, settled, valid⟩

theorem keeps_of_generated {base : Nat} {answer : Except ServiceError GenerateReply}
    (time : stamp.time.Valid) (made : s.generated base stamp answer = .ok r) :
    r.record.Keeps := by
  obtain ⟨reply, d, -, -, rfl⟩ := generated_eq_ok_iff.1 made
  obtain ⟨time, settled, valid⟩ := HistoryRecord.keeps_ofDocument time .hybrid d
  exact ⟨time, settled, valid⟩

theorem keeps_of_restored [KeyValueStore σ] {id : String} (time : stamp.time.Valid)
    (made : s.restored stamp id = .ok r) : r.record.Keeps := by
  obtain ⟨snapshot, d, -, -, rfl⟩ := restored_eq_ok_iff.1 made
  obtain ⟨time, settled, valid⟩ := HistoryRecord.keeps_ofDocument time .restored d
  exact ⟨time, settled, valid⟩

end Session

/-! ## One call -/

namespace Call

/-- Whether a call has a revision with this record to record. -/
def Records (record : HistoryRecord) : Call → Prop
  | .recording r _ => record = r.record
  | _ => False

variable [KeyValueStore σ]

/-- What is known of a call that has come so far : which records it has had to record, and whether
they are logged. -/
def Tracked (h : History σ) (accepted logged : HistoryRecord → Prop) : Call → Prop
  | .awaitingEdit _ stamp _ | .awaitingGeneration _ stamp | .awaitingSnapshot stamp _ =>
    stamp.time.Valid ∧ ∀ record, ¬ accepted record ∧ ¬ logged record
  | .recording r change =>
    r.record.Keeps ∧ (∀ record, accepted record ↔ record = r.record) ∧
      change.change = .append r.record ∧ change.stage.Recorded h r.record logged
  | .over (.ok r) => ∀ record, logged record ↔ record = r.record
  | .over (.error e) => ∀ record, logged record ↔ e = .superseded ∧ accepted record

variable {h h' : History σ} {accepted accepted' logged logged' : HistoryRecord → Prop} {c c' : Call}

/-- The records of the history only matter to a call that has the lock. -/
theorem Tracked.congr (tracked : c.Tracked h accepted logged)
    (accepted_iff : ∀ r, accepted' r ↔ accepted r) (logged_iff : ∀ r, logged' r ↔ logged r)
    (limit_eq : h'.limit = h.limit) (records_eq : c.holdsLock = true → h'.records = h.records) :
    c.Tracked h' accepted' logged' := by
  match c, tracked with
  | .awaitingEdit _ _ _, ⟨time, new⟩ | .awaitingGeneration _ _, ⟨time, new⟩
  | .awaitingSnapshot _ _, ⟨time, new⟩ =>
    refine ⟨time, fun r => ?_⟩
    rw [accepted_iff, logged_iff]
    exact new r
  | .recording r change, ⟨keeps, only, adds, recorded⟩ =>
    refine ⟨keeps, fun record => ?_, adds, recorded.congr logged_iff limit_eq records_eq⟩
    rw [accepted_iff]
    exact only record
  | .over (.ok r), logged => exact fun record => (logged_iff record).trans (logged record)
  | .over (.error e), logged =>
    intro record
    rw [accepted_iff, logged_iff]
    exact logged record

theorem Tracked.accepted_of_records {record : HistoryRecord} (tracked : c.Tracked h accepted logged)
    (records : c.Records record) : accepted record := by
  cases c with
  | recording r change => exact (tracked.2.1 record).2 records
  | _ => exact False.elim records

/-- A call that goes on with a revision has accepted its record, and no other one. -/
theorem tracked_ofRevision {made : Except SessionError Revision}
    (keeps : ∀ r, made = .ok r → r.record.Keeps)
    (new : ∀ record, ¬ accepted record ∧ ¬ logged record) :
    (ofRevision made).Tracked h (fun record => accepted record ∨ (ofRevision made).Records record)
      logged := by
  cases made with
  | error e => simp [ofRevision, Tracked, Records, new]
  | ok r =>
    refine ⟨keeps r rfl, fun record => ?_, rfl, fun record => (new record).2⟩
    simp [ofRevision, Records, new]

/-- A call that begins is tracked. -/
theorem tracked_call {s : Session σ} {stamp : Stamp} (time : stamp.time.Valid) (request : Request)
    (new : ∀ record, ¬ accepted record ∧ ¬ logged record) :
    (request.call s stamp).Tracked h
      (fun record => accepted record ∨ (request.call s stamp).Records record) logged := by
  cases request with
  | load source raw =>
    refine tracked_ofRevision (fun r made => ?_) new
    obtain ⟨origin, made⟩ := map_snd_eq_ok_iff.1 made
    exact Session.keeps_of_ingested time made
  | loadText source text =>
    refine tracked_ofRevision (fun r made => ?_) new
    obtain ⟨origin, made⟩ := map_snd_eq_ok_iff.1 made
    exact Session.keeps_of_ingestedText time made
  | chat | generate | restore =>
    exact ⟨time, by
      simpa [Request.call, Call.chat, Call.generate, Call.restore, Records] using new⟩

/-- A call that hears an answer stays tracked. -/
theorem tracked_hear {s : Session σ} {f : Flight} (tracked : f.call.Tracked h accepted logged)
    (a : Answer) :
    (f.hear s a).call.Tracked h
      (fun record => accepted record ∨ (f.hear s a).call.Records record) logged := by
  unfold Flight.hear
  split
  · next call_eq =>
    rw [call_eq] at tracked ⊢
    obtain ⟨time, new⟩ := tracked
    exact tracked_ofRevision (fun r made => Session.keeps_of_edited time made) new
  · next call_eq =>
    rw [call_eq] at tracked ⊢
    obtain ⟨time, new⟩ := tracked
    exact tracked_ofRevision (fun r made => Session.keeps_of_generated time made) new
  · exact tracked.congr (fun r => or_iff_left_of_imp tracked.accepted_of_records)
      (fun r => Iff.rfl) rfl fun _ => rfl

/-- A step of a call leaves the records alone, or it saves the record of the call behind those that
were read. -/
theorem Step.tracked {s s' : Session σ} (spec : Step s c c' s')
    (tracked : c.Tracked s.history accepted logged) :
    s'.history.limit = s.history.limit ∧
      (s'.history.records = s.history.records ∧
          c'.Tracked s'.history (fun record => accepted record ∨ c'.Records record) logged ∨
        (∀ record, ¬ logged record) ∧ c.holdsLock = true ∧ ∃ record rs, record.Keeps ∧
          s.history.records = .ok rs ∧
          s.history.save (History.latest s.history.limit (rs ++ [record])) = .ok s'.history ∧
          c'.Tracked s'.history (fun record => accepted record ∨ c'.Records record)
            (· = record)) := by
  cases spec with
  | waits =>
    refine ⟨rfl, .inl ⟨rfl, ?_⟩⟩
    exact tracked.congr (fun r => or_iff_left_of_imp tracked.accepted_of_records)
      (fun r => Iff.rfl) rfl fun _ => rfl
  | found stamp id =>
    obtain ⟨time, new⟩ := tracked
    exact ⟨rfl, .inl ⟨rfl, tracked_ofRevision (fun r made => Session.keeps_of_restored time made) new⟩⟩
  | @records r change change' history step_eq unfinished =>
    obtain ⟨keeps, only, adds, recorded⟩ := tracked
    have both : ∀ record, (accepted record ∨ record = r.record) ↔ record = r.record := by
      simp [only]
    obtain ⟨adds', limit_eq, ⟨records_eq, recorded'⟩ | ⟨new, holds, saved_eq, rs, read, saved⟩⟩ :=
      (ChangeInProgress.Step.of_eq step_eq).recorded adds recorded
    · exact ⟨limit_eq, .inl ⟨records_eq, keeps, both, adds', recorded'⟩⟩
    · refine ⟨limit_eq, .inr ⟨new, holds, r.record, rs, keeps, read, saved, keeps, both, adds', ?_⟩⟩
      rw [saved_eq]
      exact fun _ => Iff.rfl
  | fails step_eq failed =>
    obtain ⟨-, -, adds, recorded⟩ := tracked
    obtain ⟨limit_eq, records_eq, new⟩ :=
      (ChangeInProgress.Step.of_eq step_eq).recorded_over adds recorded failed
    refine ⟨limit_eq, .inl ⟨records_eq, fun record => ?_⟩⟩
    simp [new record]
  | late step_eq ended past =>
    obtain ⟨-, only, adds, recorded⟩ := tracked
    obtain ⟨limit_eq, records_eq, logged_iff⟩ :=
      (ChangeInProgress.Step.of_eq step_eq).recorded_over adds recorded ended
    refine ⟨limit_eq, .inl ⟨records_eq, fun record => ?_⟩⟩
    simp [logged_iff record, only, Records]
  | shows step_eq ended current =>
    obtain ⟨-, only, adds, recorded⟩ := tracked
    obtain ⟨limit_eq, records_eq, logged_iff⟩ :=
      (ChangeInProgress.Step.of_eq step_eq).recorded_over adds recorded ended
    exact ⟨limit_eq, .inl ⟨records_eq, logged_iff⟩⟩

end Call

/-! ## All calls -/

namespace SharedSession

/-- Whether a call has a revision with a record to record. -/
def Accepts (w : SharedSession σ) (i : Nat) (record : HistoryRecord) : Prop :=
  ∃ f, w.flights[i]? = some f ∧ f.call.Records record

theorem accepts_iff {w : SharedSession σ} {i : Nat} {f : Flight} {record : HistoryRecord}
    (flight : w.flights[i]? = some f) : w.Accepts i record ↔ f.call.Records record := by
  simp [Accepts, flight]

variable [KeyValueStore σ]

/-- What is known of a shared session, of the records that its calls have had to record, and of a
log of those that were saved, with the numbers of the calls. -/
structure Tracked (w : SharedSession σ) (accepted : Nat → HistoryRecord → Prop)
    (log : List (Nat × HistoryRecord)) : Prop where
  locking : w.Locking
  once : (log.map Prod.fst).Nodup
  keeps : ∀ record ∈ log.map Prod.snd, record.Keeps
  records : w.session.history.records =
    History.readBack (History.latest w.session.history.limit (log.map Prod.snd))
  calls : ∀ {i : Nat} {f : Flight}, w.flights[i]? = some f →
    f.call.Tracked w.session.history (accepted i) fun record => (i, record) ∈ log
  begun : ∀ {i : Nat} {record : HistoryRecord}, accepted i record ∨ (i, record) ∈ log →
    i < w.flights.length

variable {w w' : SharedSession σ} {accepted : Nat → HistoryRecord → Prop}
  {log log' : List (Nat × HistoryRecord)} {i : Nat} {f f' : Flight}

theorem tracked_ofSession {s : Session σ} (empty : s.history.records = .ok [])
    (free : s.history.locked = false) : (ofSession s).Tracked (fun _ _ => False) [] where
  locking := locking_ofSession free
  once := List.nodup_nil
  keeps := by simp
  records := by simpa [ofSession, History.readBack, History.latest] using empty
  calls := by simp [ofSession]
  begun := by simp

/-- A call that does not change stays tracked while another one has the lock. -/
theorem Tracked.call_of_same (tracked : w.Tracked accepted log) (flight : w.flights[i]? = some f)
    (logged_iff : ∀ record, (i, record) ∈ log' ↔ (i, record) ∈ log)
    (limit_eq : w'.session.history.limit = w.session.history.limit)
    (records_eq : f.call.holdsLock = true →
      w'.session.history.records = w.session.history.records) :
    f.call.Tracked w'.session.history (fun record => accepted i record ∨ f.call.Records record)
      fun record => (i, record) ∈ log' := by
  have call := tracked.calls flight
  exact call.congr (fun r => or_iff_left_of_imp call.accepted_of_records) logged_iff limit_eq
    records_eq

/-- Nothing is lost where the log grows as the history does and all calls are tracked. -/
theorem Tracked.next (tracked : w.Tracked accepted log) (locking : w'.Locking)
    (once : (log'.map Prod.fst).Nodup) (keeps : ∀ record ∈ log'.map Prod.snd, record.Keeps)
    (records : w'.session.history.records =
      History.readBack (History.latest w'.session.history.limit (log'.map Prod.snd)))
    (calls : ∀ {j : Nat} {g : Flight}, w'.flights[j]? = some g →
      g.call.Tracked w'.session.history (fun record => accepted j record ∨ g.call.Records record)
        fun record => (j, record) ∈ log')
    (length_le : w.flights.length ≤ w'.flights.length)
    (logged : ∀ {j record}, (j, record) ∈ log' → (j, record) ∈ log ∨ j < w'.flights.length) :
    w'.Tracked (fun j record => accepted j record ∨ w'.Accepts j record) log' where
  locking := locking
  once := once
  keeps := keeps
  records := records
  calls flight := by
    simp only [accepts_iff flight]
    exact calls flight
  begun := by
    rintro j record ((old | ⟨g, flight, -⟩) | entry)
    · exact (tracked.begun (.inl old)).trans_le length_le
    · exact (List.getElem?_eq_some_iff.1 flight).1
    · obtain old | inside := logged entry
      · exact (tracked.begun (.inr old)).trans_le length_le
      · exact inside

/-- Nothing is lost where the records stay as they are and all calls are tracked. -/
theorem Tracked.of_quiet (tracked : w.Tracked accepted log) (locking : w'.Locking)
    (limit_eq : w'.session.history.limit = w.session.history.limit)
    (records_eq : w'.session.history.records = w.session.history.records)
    (calls : ∀ {j : Nat} {g : Flight}, w'.flights[j]? = some g →
      g.call.Tracked w'.session.history (fun record => accepted j record ∨ g.call.Records record)
        fun record => (j, record) ∈ log)
    (length_le : w.flights.length ≤ w'.flights.length) :
    w'.Tracked (fun j record => accepted j record ∨ w'.Accepts j record) log := by
  refine tracked.next locking tracked.once tracked.keeps ?_ calls length_le .inl
  rw [records_eq, limit_eq, tracked.records]

/-- Nothing is lost where the calls and the records stay as they are. -/
theorem Tracked.of_same_flights (tracked : w.Tracked accepted log) (locking : w'.Locking)
    (flights_eq : w'.flights = w.flights)
    (limit_eq : w'.session.history.limit = w.session.history.limit)
    (records_eq : w'.session.history.records = w.session.history.records) :
    w'.Tracked (fun j record => accepted j record ∨ w'.Accepts j record) log := by
  refine tracked.of_quiet locking limit_eq records_eq ?_ (by rw [flights_eq])
  intro j g flight
  exact tracked.call_of_same (flights_eq ▸ flight) (fun _ => Iff.rfl) limit_eq fun _ => records_eq

/-- A call that begins is tracked. -/
theorem Tracked.begin (tracked : w.Tracked accepted log) {stamp : Stamp}
    (time : stamp.time.Valid) (request : Request) :
    (w.step (.begin stamp request)).Tracked
      (fun j record => accepted j record ∨ (w.step (.begin stamp request)).Accepts j record)
      log := by
  refine tracked.of_quiet (tracked.locking.step _) rfl rfl ?_ (by simp [step])
  intro j g flight
  obtain old | ⟨rfl, rfl⟩ := flight_begin_iff.1 flight
  · exact tracked.call_of_same old (fun _ => Iff.rfl) rfl fun _ => rfl
  · refine Call.tracked_call time request fun record => ?_
    have new := mt (@tracked.begun w.flights.length record) (Nat.lt_irrefl _)
    exact not_or.1 new

/-- Where one call changes, the others stay tracked. -/
theorem Tracked.calls_set (tracked : w.Tracked accepted log)
    (flights_eq : w'.flights = w.flights.set i f')
    (logged_iff : ∀ {j record}, j ≠ i → ((j, record) ∈ log' ↔ (j, record) ∈ log))
    (limit_eq : w'.session.history.limit = w.session.history.limit)
    (records_eq : ∀ {j g}, j ≠ i → w.flights[j]? = some g → g.call.holdsLock = true →
      w'.session.history.records = w.session.history.records)
    (call : f'.call.Tracked w'.session.history
      (fun record => accepted i record ∨ f'.call.Records record) fun record => (i, record) ∈ log')
    {j : Nat} {g : Flight} (flight : w'.flights[j]? = some g) :
    g.call.Tracked w'.session.history (fun record => accepted j record ∨ g.call.Records record)
      fun record => (j, record) ∈ log' := by
  rw [flights_eq] at flight
  by_cases same : j = i
  · subst same
    have bound : j < w.flights.length := by
      simpa using (List.getElem?_eq_some_iff.1 flight).1
    rw [List.getElem?_set_self bound] at flight
    exact Option.some.inj flight ▸ call
  · rw [List.getElem?_set_ne (Ne.symm same)] at flight
    exact tracked.call_of_same flight (fun _ => logged_iff same) limit_eq (records_eq same flight)

/-- A call that saves its record while no other one has the lock stays tracked, and so do the
others. -/
theorem Tracked.save [LawfulStore σ] (tracked : w.Tracked accepted log) (locking : w'.Locking)
    (flight : w.flights[i]? = some f) (flights_eq : w'.flights = w.flights.set i f')
    (limit_eq : w'.session.history.limit = w.session.history.limit)
    (new : ∀ record, (i, record) ∉ log) (holds : f.call.holdsLock = true)
    {record : HistoryRecord} {rs : List HistoryRecord} (keeps : record.Keeps)
    (read : w.session.history.records = .ok rs)
    (saved : w.session.history.save (History.latest w.session.history.limit (rs ++ [record])) =
      .ok w'.session.history)
    (call : f'.call.Tracked w'.session.history
      (fun r => accepted i r ∨ f'.call.Records r) (· = record)) :
    w'.Tracked (fun j r => accepted j r ∨ w'.Accepts j r) (log ++ [(i, record)]) := by
  have once : ((log ++ [(i, record)]).map Prod.fst).Nodup := by
    rw [List.map_append, List.nodup_append]
    refine ⟨tracked.once, by simp, ?_⟩
    rintro j old _ mem rfl
    obtain rfl : j = i := by simpa using mem
    obtain ⟨⟨j, r⟩, entry, rfl⟩ := List.mem_map.1 old
    exact new r entry
  have keeps' : ∀ r ∈ (log ++ [(i, record)]).map Prod.snd, r.Keeps := by
    simpa [or_imp, forall_and, keeps] using tracked.keeps
  have own : ∀ r, (i, r) ∈ log ++ [(i, record)] ↔ r = record := by simp [new]
  refine tracked.next locking once keeps' ?_ (tracked.calls_set flights_eq ?_ limit_eq ?_ ?_)
    (by simp [flights_eq]) ?_
  · rw [List.map_append]
    rw [List.map_append] at keeps'
    exact History.records_of_save_latest keeps' tracked.records read saved
  · intro j r other
    simp [other]
  · -- no other call has the lock
    intro j g other flight' holds'
    exact absurd (tracked.locking.exclusive ⟨g, flight', holds'⟩ ⟨f, flight, holds⟩) other
  · simpa only [own] using call
  · intro j r entry
    obtain old | last := List.mem_append.1 entry
    · exact .inl old
    · obtain ⟨rfl, -⟩ : j = i ∧ r = record := by simpa using last
      rw [flights_eq, List.length_set]
      exact .inr (List.getElem?_eq_some_iff.1 flight).1

/-- An answer keeps the calls tracked. -/
theorem Tracked.answer (tracked : w.Tracked accepted log) (i : Nat) (a : Answer) :
    (w.step (.answer i a)).Tracked
      (fun j record => accepted j record ∨ (w.step (.answer i a)).Accepts j record) log := by
  have locking := tracked.locking.step (.answer i a)
  cases flight : w.flights[i]? with
  | none =>
    rw [(step_eq_self flight).1]
    exact tracked.of_same_flights tracked.locking rfl rfl rfl
  | some f =>
    have flights_eq : (w.step (.answer i a)).flights = w.flights.set i (f.hear w.session a) := by
      rw [step_answer flight]
    have history_eq : (w.step (.answer i a)).session.history = w.session.history := by
      rw [step_answer flight]
    refine tracked.of_quiet locking (by rw [history_eq]) (by rw [history_eq]) ?_
      (by simp [flights_eq])
    refine tracked.calls_set flights_eq (fun _ => Iff.rfl) (by rw [history_eq])
      (fun _ _ _ => by rw [history_eq]) ?_
    rw [history_eq]
    exact Call.tracked_hear (tracked.calls flight) a

/-- A call that goes on stays tracked, and a record that it saves is logged. -/
theorem Tracked.resume [LawfulStore σ] (tracked : w.Tracked accepted log) (i : Nat) :
    ∃ log', (w.step (.resume i)).Tracked
      (fun j record => accepted j record ∨ (w.step (.resume i)).Accepts j record) log' := by
  have locking := tracked.locking.step (.resume i)
  cases flight : w.flights[i]? with
  | none =>
    rw [(step_eq_self flight).2]
    exact ⟨log, tracked.of_same_flights tracked.locking rfl rfl rfl⟩
  | some f =>
    have flights_eq : (w.step (.resume i)).flights =
        w.flights.set i { f with call := (f.call.step w.session).1 } := by
      rw [step_resume flight]
    have spec := f.call.step_spec w.session
    rw [show (f.call.step w.session).2 = (w.step (.resume i)).session by
      rw [step_resume flight]; rfl] at spec
    obtain ⟨limit_eq, ⟨records_eq, call⟩ | ⟨new, holds, record, rs, keeps, read, saved, call⟩⟩ :=
      spec.tracked (tracked.calls flight)
    · refine ⟨log, tracked.of_quiet locking limit_eq records_eq ?_ (by simp [flights_eq])⟩
      exact tracked.calls_set flights_eq (fun _ => Iff.rfl) limit_eq (fun _ _ _ => records_eq) call
    · exact ⟨_, tracked.save locking flight flights_eq limit_eq new holds keeps read saved call⟩

/-- Every event keeps the calls tracked if those that begin have proper stamps. -/
theorem Tracked.step [LawfulStore σ] (tracked : w.Tracked accepted log) :
    ∀ {e : SessionEvent}, (∀ stamp request, e = .begin stamp request → stamp.time.Valid) →
      ∃ log', (w.step e).Tracked (fun i record => accepted i record ∨ (w.step e).Accepts i record)
        log'
  | .begin stamp request, timed => ⟨log, tracked.begin (timed stamp request rfl) request⟩
  | .replace _, _ | .renew _, _ =>
    ⟨log, tracked.of_same_flights (tracked.locking.step _) rfl rfl rfl⟩
  | .answer i a, _ => ⟨log, tracked.answer i a⟩
  | .resume i, _ => tracked.resume i

/-- When no call is under way the log has one record of each call that succeeded, and one of each
that was superseded with a record accepted. -/
theorem Tracked.logged_iff (tracked : w.Tracked accepted log)
    (idle : ∀ f ∈ w.flights, ¬ f.UnderWay) (i : Nat) (record : HistoryRecord) :
    (i, record) ∈ log ↔
      (∃ f r, w.flights[i]? = some f ∧ f.Succeeded r ∧ r.record = record) ∨
        (∃ f, w.flights[i]? = some f ∧ f.call = .over (.error .superseded)) ∧ accepted i record := by
  constructor
  · intro entry
    obtain ⟨f, flight⟩ : ∃ f, w.flights[i]? = some f :=
      ⟨_, List.getElem?_eq_getElem (tracked.begun (.inr entry))⟩
    obtain ⟨result, ended⟩ : ∃ result, f.call = .over result := by
      simpa [Flight.UnderWay] using idle f (List.mem_of_getElem? flight)
    have call := tracked.calls flight
    rw [ended] at call
    cases result with
    | ok r => exact .inl ⟨f, r, flight, ended, ((call record).1 entry).symm⟩
    | error e =>
      obtain ⟨rfl, accepted⟩ := (call record).1 entry
      exact .inr ⟨⟨f, flight, ended⟩, accepted⟩
  · rintro (⟨f, r, flight, ok, rfl⟩ | ⟨⟨f, flight, superseded⟩, accepted⟩)
    · have call := tracked.calls flight
      rw [ok] at call
      exact (call r.record).2 rfl
    · have call := tracked.calls flight
      rw [superseded] at call
      exact (call record).2 ⟨rfl, accepted⟩

/-! ## Runs -/

/-- Whether a call has had at some time of a run a revision with a record to record. -/
def Accepted (w : SharedSession σ) (events : List SessionEvent) (i : Nat)
    (record : HistoryRecord) : Prop :=
  ∃ before, before <+: events ∧ (w.run before).Accepts i record

theorem accepted_concat_iff {events : List SessionEvent} {e : SessionEvent} {i : Nat}
    {record : HistoryRecord} :
    w.Accepted (events ++ [e]) i record ↔
      w.Accepted events i record ∨ (w.run (events ++ [e])).Accepts i record := by
  simp [Accepted, List.prefix_concat_iff, or_and_right, exists_or, or_comm]

/-- A run keeps the calls tracked if those that begin have proper stamps. -/
theorem tracked_run [LawfulStore σ] {s : Session σ} (empty : s.history.records = .ok [])
    (free : s.history.locked = false) (events : List SessionEvent)
    (timed : ∀ stamp request, .begin stamp request ∈ events → stamp.time.Valid) :
    ∃ log, ((ofSession s).run events).Tracked ((ofSession s).Accepted events) log := by
  induction events using List.reverseRecOn with
  | nil =>
    have none : (ofSession s).Accepted [] = fun _ _ => False := by
      funext i record
      simp [Accepted, Accepts, ofSession]
    exact ⟨[], none ▸ tracked_ofSession empty free⟩
  | append_singleton events e ih =>
    obtain ⟨log, tracked⟩ := ih fun stamp request mem => timed stamp request (by simp [mem])
    obtain ⟨log', tracked'⟩ := tracked.step (e := e) fun stamp request begins =>
      timed stamp request (by simp [begins])
    have accepted_eq : (ofSession s).Accepted (events ++ [e]) = fun i record =>
        (ofSession s).Accepted events i record ∨
          (((ofSession s).run events).step e).Accepts i record := by
      funext i record
      exact propext (accepted_concat_iff.trans (by rw [run_append]; rfl))
    exact ⟨log', by rw [accepted_eq, run_append]; exact tracked'⟩

/-- Whether a call was superseded late in a run, when it had a revision with a record to record
already. -/
def SupersededLate (w : SharedSession σ) (events : List SessionEvent) (i : Nat)
    (record : HistoryRecord) : Prop :=
  (∃ f, (w.run events).flights[i]? = some f ∧ f.call = .over (.error .superseded)) ∧
    w.Accepted events i record

/-- The history records what calls have done. However calls with proper stamps are interleaved on a
session with an empty history, once none is under way the history has the last records of a log, up
to the limit; they are read back together, or not at all if one is nested too deep. The log has one
record of each call that succeeded, and one of each call that was superseded late; it has none of
other calls that failed. So it is the log of the successful calls exactly if no call was superseded
late. -/
theorem history_logs_calls [LawfulStore σ] (s : Session σ) (events : List SessionEvent)
    (empty : s.history.records = .ok []) (free : s.history.locked = false)
    (timed : ∀ stamp request, .begin stamp request ∈ events → stamp.time.Valid)
    (idle : ∀ f ∈ ((ofSession s).run events).flights, ¬ f.UnderWay) :
    let w := (ofSession s).run events
    ∃ log : List (Nat × HistoryRecord), (log.map Prod.fst).Nodup ∧
      w.session.history.records =
        History.readBack (History.latest w.session.history.limit (log.map Prod.snd)) ∧
      (∀ i record, (i, record) ∈ log ↔
        (∃ f r, w.flights[i]? = some f ∧ f.Succeeded r ∧ r.record = record) ∨
          (ofSession s).SupersededLate events i record) ∧
      ((∀ i ∈ log.map Prod.fst, ∃ f r, w.flights[i]? = some f ∧ f.Succeeded r) ↔
        ∀ i record, ¬ (ofSession s).SupersededLate events i record) := by
  intro w
  obtain ⟨log, tracked⟩ := tracked_run empty free events timed
  have logged_iff := tracked.logged_iff idle
  refine ⟨log, tracked.once, tracked.records, logged_iff, ?_, ?_⟩
  · rintro all i record late
    obtain ⟨⟨f, flight, superseded⟩, -⟩ := id late
    have entry := (logged_iff i record).2 (.inr late)
    obtain ⟨g, r, flight', ok⟩ := all i (List.mem_map_of_mem entry)
    obtain rfl := Option.some.inj (flight.symm.trans flight')
    cases superseded.symm.trans ok
  · intro none i mem
    obtain ⟨⟨i, record⟩, entry, rfl⟩ := List.mem_map.1 mem
    obtain ⟨f, r, flight, ok, -⟩ | late := (logged_iff i record).1 entry
    · exact ⟨f, r, flight, ok⟩
    · exact absurd late (none i record)

/-! ## An edit that comes late -/

/-- A form with nothing in it. -/
def emptyForm : Document :=
  .ofRoot (.group (.form ⟨"root"⟩) [])

/-- The record of the empty form when it is loaded. -/
def loadRecord : HistoryRecord :=
  .ofDocument ⟨"load", ⟨0, 0⟩⟩ .upload emptyForm

/-- The record of the empty form when it is proposed as an edit. -/
def editRecord : HistoryRecord :=
  { HistoryRecord.ofDocument ⟨"edit", ⟨0, 0⟩⟩ .chat emptyForm with summary := some "Done" }

/-- An edit is asked for and a document is loaded. The service answers in time, but while the load
has the lock. -/
def editDuringLoad : List SessionEvent :=
  [.begin ⟨"edit", ⟨0, 0⟩⟩ (.chat "Empty it"),
    .begin ⟨"load", ⟨0, 0⟩⟩ (.load .upload emptyForm.toJson), .resume 1,
    .answer 0 (.edit (.ok ⟨emptyForm.toJson, some "Done"⟩)), .resume 1, .resume 1, .resume 1]

/-- When the document is loaded the edit goes on to its end. -/
def lateEdit : List SessionEvent :=
  editDuringLoad ++ [.resume 0, .resume 0, .resume 0, .resume 0]

/-- The sample in memory, with nothing in the history. -/
def sampleInMemory : Session MemoryStore :=
  .start ⟨false, true, .structural⟩ Strategy.standard .sample (.ofStore .empty 30)

/-- Both records are read back. -/
theorem readBack_records (rs : List HistoryRecord)
    (only : ∀ r ∈ rs, r = loadRecord ∨ r = editRecord) :
    (∀ r ∈ rs, r.Keeps) ∧ History.readBack rs = .ok rs := by
  have keeps : loadRecord.Keeps :=
    HistoryRecord.keeps_ofDocument ⟨by decide, .inl (by decide)⟩ .upload emptyForm
  have flat : emptyForm.toJson.nesting ≤ HistoryRecord.levels := by decide
  refine ⟨fun r mem => ?_, if_pos fun r mem => ?_⟩
  · obtain rfl | rfl := only r mem
    · exact keeps
    · exact ⟨keeps.time, keeps.settled, keeps.valid⟩
  · obtain rfl | rfl := only r mem <;> exact flat

/-- When the load is over, its record is saved, and the edit has its own still to add. Its edition
is past. -/
theorem run_editDuringLoad :
    (∃ f g r r', ((ofSession sampleInMemory).run editDuringLoad).flights = [f, g] ∧
      f.request = .chat "Empty it" ∧ f.call = .recording r (.ofChange (.append r.record)) ∧
      r.record = editRecord ∧ r.base = some 0 ∧ g.Succeeded r' ∧ r'.record = loadRecord) ∧
    ((ofSession sampleInMemory).run editDuringLoad).session.edition = 1 ∧
    sampleInMemory.history.save [loadRecord] =
      .ok ((ofSession sampleInMemory).run editDuringLoad).session.history ∧
    ∃ h, ((ofSession sampleInMemory).run editDuringLoad).session.history.save
      [loadRecord, editRecord] = .ok h :=
  ⟨⟨_, _, _, _, rfl, rfl, rfl, rfl, rfl, rfl, rfl⟩, rfl, rfl, _, rfl⟩

/-- The late edit is recorded behind the document that was loaded, and superseded. -/
theorem run_lateEdit : ∃ f g r, ((ofSession sampleInMemory).run lateEdit).flights = [f, g] ∧
    f.request = .chat "Empty it" ∧ f.call = .over (.error .superseded) ∧ g.Succeeded r ∧
    r.record = loadRecord ∧
    ((ofSession sampleInMemory).run lateEdit).session.history.records =
      .ok [loadRecord, editRecord] := by
  obtain ⟨⟨f, g, r, r', flights_eq, request_eq, call_eq, record_eq, base_eq, ok, record_eq'⟩,
    edition_eq, saved, h, saved'⟩ := run_editDuringLoad
  rw [lateEdit, run_append]
  generalize (ofSession sampleInMemory).run editDuringLoad = w at *
  have read : w.session.history.records = .ok [loadRecord] := by
    obtain ⟨keeps, back⟩ := readBack_records [loadRecord] (by simp)
    exact (History.records_of_save saved keeps).trans back
  have limit_eq : w.session.history.limit = 30 := History.limit_save saved
  have free : w.session.history.locked = false := History.locked_save saved
  have past : r.base.all (· = w.session.edition) = false := by simp [base_eq, edition_eq]
  have all : History.latest w.session.history.limit ([loadRecord] ++ [r.record]) =
      [loadRecord, editRecord] := by
    rw [History.latest_of_le (by simp [limit_eq]), record_eq]
    rfl
  rw [run_late (by rw [flights_eq, List.getElem?_cons_zero]) call_eq free past read
    (all.symm ▸ saved')]
  refine ⟨{ f with call := .over (.error .superseded) }, g, r', ?_, request_eq, rfl, ok, record_eq',
    ?_⟩
  · rw [goOn, flights_eq, List.set_cons_zero]
  · obtain ⟨keeps, back⟩ := readBack_records [loadRecord, editRecord] (by simp)
    exact (History.records_of_save saved' keeps).trans back

/-- No call is under way then. -/
theorem idle_lateEdit :
    ∀ f ∈ ((ofSession sampleInMemory).run lateEdit).flights, ¬ f.UnderWay := by
  obtain ⟨f, g, r, flights_eq, -, superseded, ok, -⟩ := run_lateEdit
  have succeeded : g.call = .over (.ok r) := ok
  simp [flights_eq, Flight.UnderWay, superseded, succeeded]

/-- A call that fails can leave a record : the late edit is superseded, and its record is the latest
one of a history in which only one call succeeded. -/
theorem late_edit_leaves_record :
    sampleInMemory.history.records = .ok [] ∧ sampleInMemory.history.locked = false ∧
      (∀ f ∈ ((ofSession sampleInMemory).run lateEdit).flights, ¬ f.UnderWay) ∧
      (∃ f g r, ((ofSession sampleInMemory).run lateEdit).flights = [f, g] ∧
        f.request = .chat "Empty it" ∧ f.call = .over (.error .superseded) ∧ g.Succeeded r ∧
        r.record = loadRecord) ∧
      ((ofSession sampleInMemory).run lateEdit).session.history.list =
        .ok [editRecord, loadRecord] := by
  obtain ⟨f, g, r, flights_eq, request_eq, superseded, ok, record_eq, records_eq⟩ := run_lateEdit
  refine ⟨rfl, rfl, idle_lateEdit, ⟨f, g, r, flights_eq, request_eq, superseded, ok, record_eq⟩, ?_⟩
  rw [History.list, records_eq]
  rfl

/-- The log of this run has the record of the load, which succeeded, and that of the edit, which was
superseded late. -/
theorem log_of_late_edit :
    sampleInMemory.history.records = .ok [] ∧ sampleInMemory.history.locked = false ∧
      (∀ stamp request, .begin stamp request ∈ lateEdit → stamp.time.Valid) ∧
      (∀ f ∈ ((ofSession sampleInMemory).run lateEdit).flights, ¬ f.UnderWay) ∧
      ∃ log : List (Nat × HistoryRecord), (log.map Prod.fst).Nodup ∧
        ((ofSession sampleInMemory).run lateEdit).session.history.records = History.readBack
          (History.latest ((ofSession sampleInMemory).run lateEdit).session.history.limit
            (log.map Prod.snd)) ∧
        (1, loadRecord) ∈ log ∧ (0, editRecord) ∈ log := by
  have timed : ∀ stamp request, .begin stamp request ∈ lateEdit → stamp.time.Valid := by
    intro stamp request begins
    have valid : (⟨0, 0⟩ : Timestamp).Valid := ⟨by decide, .inl (by decide)⟩
    obtain ⟨rfl, -⟩ | ⟨rfl, -⟩ :
        (stamp = ⟨"edit", ⟨0, 0⟩⟩ ∧ request = .chat "Empty it") ∨
          (stamp = ⟨"load", ⟨0, 0⟩⟩ ∧ request = .load .upload emptyForm.toJson) := by
      simpa [lateEdit, editDuringLoad] using begins
    all_goals exact valid
  obtain ⟨log, once, records_eq, logged_iff, -⟩ :=
    history_logs_calls sampleInMemory lateEdit rfl rfl timed idle_lateEdit
  obtain ⟨f, g, r, flights_eq, -, superseded, ok, record_eq, -⟩ := run_lateEdit
  obtain ⟨⟨f', g', r', -, before_eq, -, call_eq, accepts, -⟩, -⟩ := run_editDuringLoad
  have edit : ((ofSession sampleInMemory).run lateEdit).flights[0]? = some f := by
    rw [flights_eq, List.getElem?_cons_zero]
  have load : ((ofSession sampleInMemory).run lateEdit).flights[1]? = some g := by
    rw [flights_eq, List.getElem?_cons_succ, List.getElem?_cons_zero]
  have accepted : (ofSession sampleInMemory).Accepted lateEdit 0 editRecord := by
    refine ⟨editDuringLoad, List.prefix_append _ _, f', ?_, ?_⟩
    · rw [before_eq, List.getElem?_cons_zero]
    · rw [call_eq]
      exact accepts.symm
  exact ⟨rfl, rfl, timed, idle_lateEdit, log, once, records_eq,
    (logged_iff 1 loadRecord).2 (.inl ⟨g, r, load, ok, record_eq⟩),
    (logged_iff 0 editRecord).2 (.inr ⟨⟨f, edit, superseded⟩, accepted⟩)⟩

end SharedSession

end Wireframe
