import Wireframe.History.Change

/-!
# Steps of a change

`ChangeInProgress.Step` lists all that a change can do between two points where it can be
interrupted. A change takes the lock when it is free and gives it back when it is over, whether it
failed or not (`ChangeInProgress.Step.lock`), and one that fails leaves no trace
(`ChangeInProgress.Step.traceless`).
-/

namespace Wireframe

/-- Whether a change that has come so far has the lock. -/
def ChangeStage.holdsLock : ChangeStage → Bool
  | .reading | .saving _ | .saved => true
  | .waiting | .over _ => false

/-- Whether a change that has come so far, from one history to another, leaves no trace if it
fails. -/
def ChangeStage.Traceless {σ : Type} (h h' : History σ) : ChangeStage → Prop
  | .waiting | .over (.error _) => h' = h
  | .reading | .saving _ => h' = { h with locked := true }
  | .saved | .over (.ok _) => True

variable {σ : Type} [KeyValueStore σ]

namespace History

/-- Saving changes the store only. -/
theorem save_eq_ok_iff {h h' : History σ} {rs : List HistoryRecord} :
    h.save rs = .ok h' ↔ ∃ store,
      KeyValueStore.save h.store key (HistoryRecord.encodeAll rs) = .ok store ∧
        h' = { h with store := store } := by
  unfold save
  cases KeyValueStore.save h.store key (HistoryRecord.encodeAll rs) <;> simp [eq_comm]

theorem locked_save {h h' : History σ} {rs : List HistoryRecord} (saved : h.save rs = .ok h') :
    h'.locked = h.locked := by
  obtain ⟨store, -, rfl⟩ := save_eq_ok_iff.1 saved
  rfl

theorem limit_save {h h' : History σ} {rs : List HistoryRecord} (saved : h.save rs = .ok h') :
    h'.limit = h.limit := by
  obtain ⟨store, -, rfl⟩ := save_eq_ok_iff.1 saved
  rfl

omit [KeyValueStore σ] in
/-- A lock that is taken and given back is free again. -/
theorem unlock_lock {h : History σ} (free : h.locked = false) :
    { { h with locked := true } with locked := false } = h := by
  rw [← free]

end History

namespace ChangeInProgress

/-- All that a step of a change can do, by the change before and the change and the history
after. -/
inductive Step (h : History σ) : ChangeInProgress → ChangeInProgress → History σ → Prop
  | blocked (c : Change) (locked : h.locked = true) : Step h ⟨c, .waiting⟩ ⟨c, .waiting⟩ h
  | locks (c : Change) (free : h.locked = false) :
    Step h ⟨c, .waiting⟩ ⟨c, .reading⟩ { h with locked := true }
  | unread (c : Change) {e : StorageError} (failed : h.recordsFor c = .error e) :
    Step h ⟨c, .reading⟩ ⟨c, .over (.error e)⟩ { h with locked := false }
  | idles (c : Change) {rs : List HistoryRecord} (read : h.recordsFor c = .ok rs)
    (idle : c.next? h.limit rs = none) :
    Step h ⟨c, .reading⟩ ⟨c, .over (.ok false)⟩ { h with locked := false }
  | reads (c : Change) {rs next : List HistoryRecord} (read : h.recordsFor c = .ok rs)
    (next_eq : c.next? h.limit rs = some next) : Step h ⟨c, .reading⟩ ⟨c, .saving next⟩ h
  | unsaved (c : Change) {next : List HistoryRecord} {e : StorageError}
    (failed : h.save next = .error e) :
    Step h ⟨c, .saving next⟩ ⟨c, .over (.error e)⟩ { h with locked := false }
  | saves (c : Change) {next : List HistoryRecord} {h' : History σ} (saved : h.save next = .ok h') :
    Step h ⟨c, .saving next⟩ ⟨c, .saved⟩ h'
  | unlocks (c : Change) : Step h ⟨c, .saved⟩ ⟨c, .over (.ok true)⟩ { h with locked := false }
  | rests (c : Change) (result : Except StorageError Bool) :
    Step h ⟨c, .over result⟩ ⟨c, .over result⟩ h

/-- A step does one of these things. -/
theorem step_spec (c : ChangeInProgress) (h : History σ) : Step h c (c.step h).1 (c.step h).2 := by
  obtain ⟨change, stage⟩ := c
  cases stage with
  | waiting =>
    cases locked : h.locked with
    | true => simpa [step, locked] using Step.blocked change locked
    | false => simpa [step, locked] using Step.locks change locked
  | reading =>
    cases read : h.recordsFor change with
    | error e => simpa [step, read, finish] using Step.unread change read
    | ok rs =>
      cases next_eq : change.next? h.limit rs with
      | none => simpa [step, read, next_eq, finish] using Step.idles change read next_eq
      | some next => simpa [step, read, next_eq] using Step.reads change read next_eq
  | saving next =>
    cases saved : h.save next with
    | error e => simpa [step, saved, finish] using Step.unsaved change saved
    | ok h' => simpa [step, saved] using Step.saves change saved
  | saved => exact .unlocks change
  | _ => exact .rests change _

/-- What a step with a known outcome does. -/
theorem Step.of_eq {c c' : ChangeInProgress} {h h' : History σ} (step_eq : c.step h = (c', h')) :
    Step h c c' h' := by
  have spec := c.step_spec h
  rwa [step_eq] at spec

variable {c c' : ChangeInProgress} {h h' : History σ}

/-- The lock stays as it is, is taken when it was free, or is given back. -/
theorem Step.lock (spec : Step h c c' h') :
    c'.stage.holdsLock = c.stage.holdsLock ∧ h'.locked = h.locked ∨
    h.locked = false ∧ c'.stage.holdsLock = true ∧ h'.locked = true ∨
    c.stage.holdsLock = true ∧ c'.stage.holdsLock = false ∧ h'.locked = false := by
  cases spec with
  | blocked | reads | rests => exact .inl ⟨rfl, rfl⟩
  | saves _ saved => exact .inl ⟨rfl, History.locked_save saved⟩
  | locks _ free => exact .inr (.inl ⟨free, rfl, rfl⟩)
  | unread | idles | unsaved | unlocks => exact .inr (.inr ⟨rfl, rfl, rfl⟩)

/-- Whatever a change does to a free history, it leaves no trace if it fails. -/
theorem Step.traceless {h₀ : History σ} (free : h₀.locked = false) (spec : Step h c c' h')
    (traceless : c.stage.Traceless h₀ h) : c'.stage.Traceless h₀ h' := by
  cases spec with
  | blocked | reads | rests => exact traceless
  | locks => exact congrArg (fun h : History σ => { h with locked := true }) traceless
  | unread | unsaved =>
    rw [show h = _ from traceless]
    exact History.unlock_lock free
  | idles | saves | unlocks => trivial

end ChangeInProgress

end Wireframe
