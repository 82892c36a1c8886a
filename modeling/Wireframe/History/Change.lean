import Wireframe.History.Log

/-!
# Changes step by step

A change of the history can be interrupted wherever it waits: for the lock, for the store to
load, for the store to save, and before it gives the lock back. Other changes wait for the lock
meanwhile; readers do not. `ChangeInProgress.step` takes a change from one such point to the
next.
-/

namespace Wireframe

/-- How far a change has come. -/
inductive ChangeStage where
  /-- It waits for the lock. -/
  | waiting
  /-- It holds the lock and waits for the records. -/
  | reading
  /-- It holds the lock and waits until these records are saved. -/
  | saving (records : List HistoryRecord)
  /-- It holds the lock, and all is saved. -/
  | saved
  /-- It is over: whether it had an effect, or why it failed. -/
  | over (result : Except StorageError Bool)

/-- A change under way. -/
structure ChangeInProgress where
  change : Change
  stage : ChangeStage

namespace ChangeInProgress

/-- A change that has not begun. -/
def ofChange (c : Change) : ChangeInProgress :=
  ⟨c, .waiting⟩

variable {σ : Type} [KeyValueStore σ]

/-- A change that ends and gives the lock back. -/
def finish (c : ChangeInProgress) (h : History σ) (result : Except StorageError Bool) :
    ChangeInProgress × History σ :=
  ({ c with stage := .over result }, { h with locked := false })

/-- The change and the history at the next point where it can be interrupted. Nothing happens
while another change holds the lock. -/
def step (c : ChangeInProgress) (h : History σ) : ChangeInProgress × History σ :=
  match c.stage with
  | .waiting =>
    if h.locked then (c, h) else ({ c with stage := .reading }, { h with locked := true })
  | .reading =>
    match h.recordsFor c.change with
    | .error e => c.finish h (.error e)
    | .ok records =>
      match c.change.next? h.limit records with
      | none => c.finish h (.ok false)
      | some next => ({ c with stage := .saving next }, h)
  | .saving records =>
    match h.save records with
    | .error e => c.finish h (.error e)
    | .ok h => ({ c with stage := .saved }, h)
  | .saved => c.finish h (.ok true)
  | .over _ => (c, h)

end ChangeInProgress

end Wireframe
