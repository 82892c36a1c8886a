import Wireframe.Proofs.History.Appending
import Wireframe.Proofs.History.Changing

/-!
# Recording step by step

A change that adds a record may be interrupted between reading the others and saving them all
together. `ChangeStage.Recorded` says what is known of its record meanwhile : it is not in the log
until the save succeeds, and is there from then on. `ChangeInProgress.Step.recorded` shows that a
step either leaves the records alone or saves the log with the new record behind it.
-/

namespace Wireframe

namespace History

/-- As many of the last records as the limit allows. -/
def latest (limit : Nat) (rs : List HistoryRecord) : List HistoryRecord :=
  rs.drop (rs.length - limit)

theorem latest_of_le {limit : Nat} {rs : List HistoryRecord} (within : rs.length ≤ limit) :
    latest limit rs = rs := by
  rw [latest, Nat.sub_eq_zero_of_le within, List.drop_zero]

/-- A new record is never dropped. -/
theorem latest_append {σ : Type} (h : History σ) (rs : List HistoryRecord)
    (record : HistoryRecord) :
    latest h.limit (rs ++ [record]) = rs.drop (rs.length + 1 - h.limit) ++ [record] :=
  Option.some.inj (h.next?_append rs record)

/-- Records that were dropped already would be dropped when another one comes. -/
theorem latest_latest_append {σ : Type} (h : History σ) (rs : List HistoryRecord)
    (record : HistoryRecord) :
    latest h.limit (latest h.limit rs ++ [record]) = latest h.limit (rs ++ [record]) := by
  have pos := h.limit_pos
  rw [h.latest_append, h.latest_append, latest, List.drop_drop, List.length_drop]
  congr 2
  omega

/-- What is read of records that were saved : all of them, unless one is nested too deep. -/
def readBack (rs : List HistoryRecord) : Except StorageError (List HistoryRecord) :=
  if ∀ r ∈ rs, r.document.nesting ≤ HistoryRecord.levels then .ok rs else .error .corrupt

/-- What can be read is what was saved. -/
theorem eq_of_readBack {saved rs : List HistoryRecord} (read : readBack saved = .ok rs) :
    rs = saved := by
  unfold readBack at read
  split_ifs at read
  exact (Except.ok.inj read).symm

variable {σ : Type} [KeyValueStore σ] [LawfulStore σ]

/-- A log grows by a record when the record is saved with what was read of the log. -/
theorem records_of_save_latest {h h' : History σ} {log rs : List HistoryRecord}
    {record : HistoryRecord} (keeps : ∀ r ∈ log ++ [record], r.Keeps)
    (records_eq : h.records = readBack (latest h.limit log)) (read : h.records = .ok rs)
    (saved : h.save (latest h.limit (rs ++ [record])) = .ok h') :
    h'.records = readBack (latest h'.limit (log ++ [record])) := by
  obtain rfl := eq_of_readBack (records_eq.symm.trans read)
  rw [h.latest_latest_append] at saved
  rw [limit_save saved]
  exact records_of_save saved fun r mem => keeps r (List.mem_of_mem_drop mem)

end History

variable {σ : Type} [KeyValueStore σ]

/-- What is known of a record that a change is to add, when the change has come so far : whether
it is logged, and what is about to be saved. -/
def ChangeStage.Recorded (h : History σ) (record : HistoryRecord) (logged : HistoryRecord → Prop) :
    ChangeStage → Prop
  | .waiting | .reading | .over (.error _) => ∀ r, ¬ logged r
  | .saving next => (∀ r, ¬ logged r) ∧
    ∃ rs, h.records = .ok rs ∧ next = History.latest h.limit (rs ++ [record])
  | .saved | .over (.ok _) => ∀ r, logged r ↔ r = record

variable {h h' : History σ} {record : HistoryRecord} {logged logged' : HistoryRecord → Prop}

/-- The records only matter to a change that has the lock. -/
theorem ChangeStage.Recorded.congr {stage : ChangeStage}
    (recorded : stage.Recorded h record logged) (logged_iff : ∀ r, logged' r ↔ logged r)
    (limit_eq : h'.limit = h.limit) (records_eq : stage.holdsLock = true → h'.records = h.records) :
    stage.Recorded h' record logged' := by
  match stage with
  | .waiting | .reading | .over (.error _) | .saved | .over (.ok _) =>
    simpa only [Recorded, logged_iff] using recorded
  | .saving next => simpa only [Recorded, logged_iff, limit_eq, records_eq rfl] using recorded

namespace ChangeInProgress

variable {c c' : ChangeInProgress}

/-- A step of a change that adds a record leaves the records alone, or it saves the new one behind
those that were read. -/
theorem Step.recorded (spec : Step h c c' h') (adds : c.change = .append record)
    (recorded : c.stage.Recorded h record logged) :
    c'.change = .append record ∧ h'.limit = h.limit ∧
      (h'.records = h.records ∧ c'.stage.Recorded h' record logged ∨
        (∀ r, ¬ logged r) ∧ c.stage.holdsLock = true ∧ c'.stage = .saved ∧
          ∃ rs, h.records = .ok rs ∧
            h.save (History.latest h.limit (rs ++ [record])) = .ok h') := by
  cases spec with
  | blocked | locks | unread | rests => exact ⟨adds, rfl, .inl ⟨rfl, recorded⟩⟩
  | unlocks => exact ⟨adds, rfl, .inl ⟨rfl, recorded⟩⟩
  | unsaved => exact ⟨adds, rfl, .inl ⟨rfl, recorded.1⟩⟩
  | idles c read idle =>
    obtain rfl : c = .append record := adds
    cases idle
  | reads c read next_eq =>
    obtain rfl : c = .append record := adds
    obtain rfl := Option.some.inj next_eq
    exact ⟨rfl, rfl, .inl ⟨rfl, recorded, _, read, rfl⟩⟩
  | saves c saved =>
    obtain ⟨new, rs, read, rfl⟩ := recorded
    exact ⟨adds, History.limit_save saved, .inr ⟨new, rfl, rfl, rs, read, saved⟩⟩

/-- The step in which a change ends leaves the records alone. -/
theorem Step.recorded_over (spec : Step h c c' h') (adds : c.change = .append record)
    (recorded : c.stage.Recorded h record logged) {result : Except StorageError Bool}
    (ended : c'.stage = .over result) :
    h'.limit = h.limit ∧ h'.records = h.records ∧
      (ChangeStage.over result).Recorded h' record logged := by
  obtain ⟨-, limit_eq, ⟨records_eq, recorded'⟩ | ⟨-, -, saved_eq, -⟩⟩ := spec.recorded adds recorded
  · exact ⟨limit_eq, records_eq, ended ▸ recorded'⟩
  · cases ended.symm.trans saved_eq

/-- A change that adds a record and is not disturbed saves it in four steps. -/
theorem append_steps {h h' : History σ} {record : HistoryRecord} {rs : List HistoryRecord}
    (free : h.locked = false) (read : h.records = .ok rs)
    (saved : h.save (History.latest h.limit (rs ++ [record])) = .ok h') :
    let c : Change := .append record
    let next := History.latest h.limit (rs ++ [record])
    (ofChange c).step h = (⟨c, .reading⟩, { h with locked := true }) ∧
      step ⟨c, .reading⟩ { h with locked := true } = (⟨c, .saving next⟩, { h with locked := true }) ∧
      step ⟨c, .saving next⟩ { h with locked := true } = (⟨c, .saved⟩, { h' with locked := true }) ∧
      step ⟨c, .saved⟩ { h' with locked := true } = (⟨c, .over (.ok true)⟩, h') := by
  intro c next
  obtain ⟨store, store_eq, rfl⟩ := History.save_eq_ok_iff.1 saved
  have from_all : History.recordsFor { h with locked := true } c = .ok rs := read
  have next_eq : c.next? h.limit rs = some next := rfl
  have saved : History.save { h with locked := true } next =
      .ok { h with store := store, locked := true } :=
    History.save_eq_ok_iff.2 ⟨store, store_eq, rfl⟩
  refine ⟨by simp [step, ofChange, free], by simp [step, from_all, next_eq], by simp [step, saved], ?_⟩
  simp [step, finish, free]

end ChangeInProgress

end Wireframe
