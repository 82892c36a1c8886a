import Wireframe.History.Record
import Wireframe.Store.Basic

/-!
# The history

The history is a list of records under one key of a store. It grows at its end and is cut at
its beginning: never more records than the limit are kept. Readers see the latest record first.

A change of the history reads the list, computes the next one and saves it. `Change.next?` is
the part in the middle; `History.perform` does all of it at once.
-/

namespace Wireframe

/-- A list of records in a store. -/
structure History (σ : Type) where
  store : σ
  /-- The most records that are kept. -/
  limit : Nat
  limit_pos : 0 < limit
  /-- A change is under way. -/
  locked : Bool

/-- A change of the history. -/
inductive Change where
  /-- A record is added. -/
  | append (record : HistoryRecord)
  /-- The records with an id are removed. -/
  | delete (id : String)
  /-- All records are removed. -/
  | clear

namespace Change

/-- Whether the change depends on the records that are there. -/
def reads : Change → Bool
  | clear => false
  | _ => true

/-- The records after the change, none if it leaves them alone. -/
def next? (limit : Nat) (records : List HistoryRecord) : Change → Option (List HistoryRecord)
  | append record =>
    let grown := records ++ [record]
    some (grown.drop (grown.length - limit))
  | delete id =>
    let kept := records.filter fun r => r.id ≠ id
    if kept.length = records.length then none else some kept
  | clear => some []

end Change

namespace History

/-- The key of the list. -/
def key : String := "history.v1"

/-- The limit where none is given. -/
def defaultLimit : Nat := 30

variable {σ : Type}

/-- The history in a store. At least one record is kept. -/
def ofStore (store : σ) (limit : Nat) : History σ :=
  ⟨store, max limit 1, by omega, false⟩

variable [KeyValueStore σ]

/-- The records, oldest first. -/
def records (h : History σ) : Except StorageError (List HistoryRecord) :=
  match KeyValueStore.load h.store key with
  | .error e => .error e
  | .ok none => .ok []
  | .ok (some text) =>
    match HistoryRecord.decodeAll? text with
    | some records => .ok records
    | none => .error .corrupt

/-- The history with these records in its store. -/
def save (h : History σ) (records : List HistoryRecord) : Except StorageError (History σ) :=
  match KeyValueStore.save h.store key (HistoryRecord.encodeAll records) with
  | .error e => .error e
  | .ok store => .ok { h with store := store }

/-- The records, latest first. -/
def list (h : History σ) : Except StorageError (List HistoryRecord) :=
  h.records.map List.reverse

/-- The oldest record with an id. -/
def find? (h : History σ) (id : String) : Except StorageError (Option HistoryRecord) :=
  h.records.map fun records => records.find? fun r => r.id = id

/-- The records that a change starts from. -/
def recordsFor (h : History σ) (c : Change) : Except StorageError (List HistoryRecord) :=
  if c.reads then h.records else .ok []

/-- A change carried out at once: whether it had an effect, and the history after it. -/
def perform (h : History σ) (c : Change) : Except StorageError (Bool × History σ) := do
  let records ← h.recordsFor c
  match c.next? h.limit records with
  | none => return (false, h)
  | some next =>
    let h ← h.save next
    return (true, h)

/-- The history with a record added. -/
def append (h : History σ) (record : HistoryRecord) : Except StorageError (History σ) :=
  (h.perform (.append record)).map Prod.snd

/-- Whether there was a record with an id, and the history without it. -/
def delete (h : History σ) (id : String) : Except StorageError (Bool × History σ) :=
  h.perform (.delete id)

/-- The history without records. -/
def clear (h : History σ) : Except StorageError (History σ) :=
  (h.perform .clear).map Prod.snd

end History

end Wireframe
