import Wireframe.Proofs.History.Serial
import Wireframe.Store.Memory

/-!
# Interleaved changes and readings

Any number of changes and readings share a history. What happens is a list of events in whatever
order : a change begins or goes on to its next interruption, a reading begins or gets the stored
records. A shared history keeps beside them the order in which the changes took the lock.

`ChangeStage.Midway` says how far a change has come from the history that it found when it took the
lock, as if it were alone. It is kept by every step (`ChangeInProgress.Step.midway`), and since
nothing else touches the store while the lock is taken, the history is always the one that the
changes make one after the other in the order of the lock (`SharedHistory.Linear`).
`SharedHistory.interleaved_changes_are_serial` says so of every run, of what changes return and of
what readings see.
-/

namespace Wireframe

/-! ## Readings -/

/-- What is asked of a history. -/
inductive HistoryQuery where
  | list
  | get (id : String)

/-- What a history answers. -/
inductive HistoryAnswer where
  | records (result : Except StorageError (List HistoryRecord))
  | record (result : Except StorageError (Option HistoryRecord))

/-- The answer to a question. -/
def HistoryQuery.answer {σ : Type} [KeyValueStore σ] (h : History σ) : HistoryQuery → HistoryAnswer
  | list => .records h.list
  | get id => .record (h.find? id)

/-- A reading and what is known of it. -/
structure Reading where
  query : HistoryQuery
  /-- The changes that were over when it began. -/
  past : List Nat
  /-- The answer, once the records are read, and the changes that had taken the lock by then. -/
  outcome : Option (HistoryAnswer × List Nat)

/-! ## Runs -/

/-- A history and all that happens on it. -/
structure SharedHistory (σ : Type) where
  history : History σ
  /-- The changes in the order in which they began, those that are over too. -/
  changes : List ChangeInProgress
  readings : List Reading
  /-- The changes that took the lock with their numbers, in the order in which they took it. -/
  order : List (Nat × Change)

/-- What can happen to a shared history. -/
inductive HistoryEvent where
  /-- A change begins. -/
  | change (c : Change)
  /-- A change goes on to its next interruption. -/
  | resume (i : Nat)
  /-- A reading begins. -/
  | query (q : HistoryQuery)
  /-- A reading gets the stored records. -/
  | read (i : Nat)

/-- Whether a change is over. -/
def ChangeStage.isOver : ChangeStage → Bool
  | .over _ => true
  | .waiting | .reading | .saving _ | .saved => false

namespace SharedHistory

variable {σ : Type}

/-- A history on which nothing happens yet. -/
def ofHistory (h : History σ) : SharedHistory σ :=
  ⟨h, [], [], []⟩

/-- The numbers of the changes that are over. -/
def past (w : SharedHistory σ) : List Nat :=
  (List.range w.changes.length).filter fun i => (w.changes[i]?).any fun x => x.stage.isOver

/-- The numbers of the changes that took the lock. -/
def started (w : SharedHistory σ) : List Nat :=
  w.order.map Prod.fst

variable [KeyValueStore σ]

/-- The state after an event. -/
def step (w : SharedHistory σ) : HistoryEvent → SharedHistory σ
  | .change c => { w with changes := w.changes ++ [.ofChange c] }
  | .resume i =>
    match w.changes[i]? with
    | none => w
    | some x =>
      let (next, h) := x.step w.history
      { w with
        history := h
        changes := w.changes.set i next
        order := if !x.stage.holdsLock && next.stage.holdsLock then w.order ++ [(i, x.change)]
          else w.order }
  | .query q => { w with readings := w.readings ++ [⟨q, w.past, none⟩] }
  | .read i =>
    match w.readings[i]? with
    | some ⟨q, past, none⟩ =>
      { w with readings := w.readings.set i ⟨q, past, some (q.answer w.history, w.started)⟩ }
    | _ => w

/-- The state after a list of events. -/
def run (w : SharedHistory σ) (events : List HistoryEvent) : SharedHistory σ :=
  events.foldl step w

theorem run_append (w : SharedHistory σ) (before after : List HistoryEvent) :
    w.run (before ++ after) = (w.run before).run after :=
  List.foldl_append

end SharedHistory

/-! ## A change alone -/

/-- Saving fails whether the lock is taken or not. -/
theorem History.save_lock_eq_error_iff {σ : Type} [KeyValueStore σ] {h : History σ} {locked : Bool}
    {rs : List HistoryRecord} {e : StorageError} :
    { h with locked := locked }.save rs = .error e ↔ h.save rs = .error e := by
  simp only [save]
  cases KeyValueStore.save h.store key (HistoryRecord.encodeAll rs) <;> simp

/-- How far a change has come from a history that was free, as if it were alone. -/
def ChangeStage.Midway {σ : Type} [KeyValueStore σ] (start : History σ) (c : Change)
    (h : History σ) : ChangeStage → Prop
  | .waiting => h = start
  | .reading => h = { start with locked := true }
  | .saving next => h = { start with locked := true } ∧
    ∃ rs, start.recordsFor c = .ok rs ∧ c.next? start.limit rs = some next
  | .saved => h = { start.after c with locked := true } ∧ start.result c = .ok true
  | .over result => h = start.after c ∧ start.result c = result

/-- A change that has the lock is not over. -/
theorem ChangeStage.isOver_of_holdsLock : ∀ {stage : ChangeStage}, stage.holdsLock = true →
    stage.isOver = false
  | .reading, _ | .saving _, _ | .saved, _ => rfl

theorem ChangeStage.isOver_iff {stage : ChangeStage} :
    stage.isOver = true ↔ ∃ result, stage = .over result := by
  cases stage <;> simp [isOver]

/-- The answer of a history does not depend on the lock. -/
theorem HistoryQuery.answer_lock {σ : Type} [KeyValueStore σ] (q : HistoryQuery) (h : History σ)
    (locked : Bool) : q.answer { h with locked := locked } = q.answer h := by
  cases q <;> rfl

/-- A change that has the lock has locked the history. -/
theorem ChangeStage.Midway.locked {σ : Type} [KeyValueStore σ] {start h : History σ} {c : Change}
    {stage : ChangeStage} (midway : stage.Midway start c h) (holds : stage.holdsLock = true) :
    h.locked = true := by
  cases stage with
  | reading =>
    obtain rfl := midway
    rfl
  | saving | saved =>
    obtain ⟨rfl, -⟩ := midway
    rfl
  | _ => cases holds

/-- On the way of a change the history answers as before it or as after it. -/
theorem ChangeStage.Midway.answer_eq {σ : Type} [KeyValueStore σ] {start h : History σ} {c : Change}
    {stage : ChangeStage} (midway : stage.Midway start c h) (q : HistoryQuery) :
    q.answer h = q.answer start ∨ q.answer h = q.answer (start.after c) := by
  cases stage with
  | waiting =>
    obtain rfl := midway
    exact .inl rfl
  | reading =>
    obtain rfl := midway
    exact .inl (q.answer_lock start true)
  | saving next =>
    obtain ⟨rfl, -⟩ := midway
    exact .inl (q.answer_lock start true)
  | saved =>
    obtain ⟨rfl, -⟩ := midway
    exact .inr (q.answer_lock (start.after c) true)
  | _ =>
    obtain ⟨rfl, -⟩ := midway
    exact .inr rfl

namespace ChangeInProgress

variable {σ : Type} [KeyValueStore σ] {start h h' : History σ} {x x' : ChangeInProgress}

/-- A change does not become another one. -/
theorem Step.change_eq (spec : Step h x x' h') : x'.change = x.change := by
  cases spec <;> rfl

/-- A step does nothing, takes the lock, or is one of a change that has it. -/
theorem Step.progress (spec : Step h x x' h') :
    x.stage.holdsLock = false ∧ x' = x ∧ h' = h ∨
    x.stage = .waiting ∧ x'.stage = .reading ∧ h.locked = false ∧ h' = { h with locked := true } ∨
    x.stage.holdsLock = true ∧ (x'.stage.holdsLock = true ∨ x'.stage.isOver = true) := by
  cases spec with
  | blocked | rests => exact .inl ⟨rfl, rfl, rfl⟩
  | locks c free => exact .inr (.inl ⟨rfl, rfl, free, rfl⟩)
  | reads | saves => exact .inr (.inr ⟨rfl, .inl rfl⟩)
  | unread | idles | unsaved | unlocks => exact .inr (.inr ⟨rfl, .inr rfl⟩)

/-- A step of a change goes on as if the change were alone. -/
theorem Step.midway (free : start.locked = false) (spec : Step h x x' h')
    (midway : x.stage.Midway start x.change h) : x'.stage.Midway start x'.change h' := by
  cases spec with
  | blocked | rests => exact midway
  | locks => exact congrArg (fun h : History σ => { h with locked := true }) midway
  | @unread c e failed =>
    obtain rfl := midway
    have performed : start.perform c = .error e := by
      have failed : start.recordsFor c = .error e := failed
      rw [History.perform, failed]
      rfl
    obtain ⟨after_eq, result_eq⟩ := History.after_of_error performed
    exact ⟨by rw [after_eq]; exact History.unlock_lock free, result_eq⟩
  | @idles c rs read idle =>
    obtain rfl := midway
    have read : start.recordsFor c = .ok rs := read
    obtain ⟨after_eq, result_eq⟩ := History.after_of_ok
      (History.perform_eq_ok_iff.2 ⟨rs, read, .inl ⟨idle, rfl, rfl⟩⟩)
    exact ⟨by rw [after_eq]; exact History.unlock_lock free, result_eq⟩
  | reads c read next_eq =>
    obtain rfl := midway
    exact ⟨rfl, _, read, next_eq⟩
  | @unsaved c next e failed =>
    obtain ⟨rfl, rs, read, next_eq⟩ := midway
    have performed : start.perform c = .error e := by
      have failed : start.save next = .error e := History.save_lock_eq_error_iff.1 failed
      rw [History.perform, read]
      simp [bind, Except.bind, next_eq, failed]
    obtain ⟨after_eq, result_eq⟩ := History.after_of_error performed
    exact ⟨by rw [after_eq]; exact History.unlock_lock free, result_eq⟩
  | @saves c next h' saved =>
    obtain ⟨rfl, rs, read, next_eq⟩ := midway
    obtain ⟨store, stored, rfl⟩ := History.save_eq_ok_iff.1 saved
    have saved : start.save next = .ok { start with store := store } :=
      History.save_eq_ok_iff.2 ⟨store, stored, rfl⟩
    obtain ⟨after_eq, result_eq⟩ := History.after_of_ok
      (History.perform_eq_ok_iff.2 ⟨rs, read, .inr ⟨next, next_eq, saved, rfl⟩⟩)
    exact ⟨by rw [after_eq], result_eq⟩
  | unlocks c =>
    obtain ⟨rfl, result_eq⟩ := midway
    obtain ⟨store, after_eq⟩ := start.after_eq c
    refine ⟨?_, result_eq⟩
    rw [after_eq]
    exact History.unlock_lock free

end ChangeInProgress

/-! ## All changes together -/

namespace SharedHistory

variable {σ : Type} [KeyValueStore σ] {h : History σ} {w w' : SharedHistory σ}

/-- The history that the first changes make one after the other, in the order of the lock. -/
def serial (w : SharedHistory σ) (h : History σ) (n : Nat) : History σ :=
  h.afterAll ((w.order.take n).map Prod.snd)

/-- Where the history is : between two changes, or on the way of the last change that took the
lock. -/
inductive Current (h : History σ) (w : SharedHistory σ) : Prop
  | free (history_eq : w.history = h.afterAll (w.order.map Prod.snd))
    (idle : ∀ {i : Nat} {x : ChangeInProgress}, w.changes[i]? = some x →
      x.stage.holdsLock = false) : Current h w
  | taken {before : List (Nat × Change)} {i : Nat} {x : ChangeInProgress}
    (order_eq : w.order = before ++ [(i, x.change)]) (change : w.changes[i]? = some x)
    (holds : x.stage.holdsLock = true)
    (midway : x.stage.Midway (h.afterAll (before.map Prod.snd)) x.change w.history)
    (others : ∀ {j : Nat} {y : ChangeInProgress}, j ≠ i → w.changes[j]? = some y →
      y.stage.holdsLock = false) : Current h w

/-- What holds of a reading : the changes that were over when it began still are, and its answer is
that of the history after some of the first changes, to which those belong and only such that had
taken the lock. -/
structure Seen (h : History σ) (w : SharedHistory σ) (r : Reading) : Prop where
  past : ∀ i ∈ r.past, ∃ x, w.changes[i]? = some x ∧ x.stage.isOver = true
  answer : ∀ answer started, r.outcome = some (answer, started) → ∃ n ≤ w.order.length,
    (∀ i ∈ r.past, i ∈ (w.order.take n).map Prod.fst) ∧
    (∀ i ∈ (w.order.take n).map Prod.fst, i ∈ started) ∧
    answer = r.query.answer (w.serial h n)

/-- Whether changes and readings were as they are when the changes run one after the other. -/
structure Linear (h : History σ) (w : SharedHistory σ) : Prop where
  once : (w.order.map Prod.fst).Nodup
  mem_order_iff : ∀ {i c}, (i, c) ∈ w.order ↔
    ∃ x, w.changes[i]? = some x ∧ x.change = c ∧ x.stage ≠ .waiting
  current : Current h w
  results : ∀ {n i c} {x : ChangeInProgress} {result}, w.order[n]? = some (i, c) →
    w.changes[i]? = some x → x.stage = .over result → (w.serial h n).result c = result
  readings : ∀ r ∈ w.readings, Seen h w r

/-- The first changes are the same when others come behind. -/
theorem serial_eq {behind : List (Nat × Change)} {n : Nat} (order_eq : w'.order = w.order ++ behind)
    (within : n ≤ w.order.length) :
    w'.order.take n = w.order.take n ∧ w'.serial h n = w.serial h n := by
  have take_eq : w'.order.take n = w.order.take n := by
    rw [order_eq, List.take_append_of_le_length within]
  exact ⟨take_eq, by rw [serial, take_eq, serial]⟩

omit [KeyValueStore σ] in
theorem mem_past {i : Nat} :
    i ∈ w.past ↔ ∃ x, w.changes[i]? = some x ∧ x.stage.isOver = true := by
  simp only [past, List.mem_filter, List.mem_range, Option.any_eq_true]
  constructor
  · rintro ⟨-, found⟩
    exact found
  · rintro ⟨x, change, ended⟩
    exact ⟨(List.getElem?_eq_some_iff.1 change).1, x, change, ended⟩

/-- What a reading has seen stays so while changes that are over stay and others come behind. -/
theorem Seen.mono {r : Reading} {behind : List (Nat × Change)} (seen : Seen h w r)
    (order_eq : w'.order = w.order ++ behind)
    (stay : ∀ {i : Nat} {x : ChangeInProgress}, w.changes[i]? = some x → x.stage.isOver = true →
      w'.changes[i]? = some x) :
    Seen h w' r where
  past i mem := by
    obtain ⟨x, change, ended⟩ := seen.past i mem
    exact ⟨x, stay change ended, ended⟩
  answer answer started outcome := by
    obtain ⟨n, within, past, known, answer_eq⟩ := seen.answer answer started outcome
    obtain ⟨take_eq, serial_eq⟩ := serial_eq (h := h) order_eq within
    refine ⟨n, by simp [order_eq]; omega, ?_, ?_, ?_⟩
    · rwa [take_eq]
    · rwa [take_eq]
    · rwa [serial_eq]

theorem linear_ofHistory (h : History σ) : Linear h (ofHistory h) where
  once := by simp [ofHistory]
  mem_order_iff := by simp [ofHistory]
  current := .free rfl (by simp [ofHistory])
  results := by simp [ofHistory]
  readings := by simp [ofHistory]

/-! ## Readings among changes -/

theorem serial_length (w : SharedHistory σ) (h : History σ) :
    w.serial h w.order.length = h.afterAll (w.order.map Prod.snd) := by
  rw [serial, List.take_length]

/-- The history answers as after some of the first changes, among them all that are over. -/
theorem Linear.exists_serial (linear : Linear h w) (q : HistoryQuery) : ∃ n ≤ w.order.length,
    (∀ i x, w.changes[i]? = some x → x.stage.isOver = true → i ∈ (w.order.take n).map Prod.fst) ∧
    q.answer w.history = q.answer (w.serial h n) := by
  have all : ∀ i x, w.changes[i]? = some x → x.stage.isOver = true → (i, x.change) ∈ w.order := by
    intro i x change ended
    refine linear.mem_order_iff.2 ⟨x, change, rfl, fun waiting => ?_⟩
    rw [waiting] at ended
    cases ended
  have every : ∀ i x, w.changes[i]? = some x → x.stage.isOver = true →
      i ∈ (w.order.take w.order.length).map Prod.fst := by
    intro i x change ended
    rw [List.take_length]
    exact List.mem_map_of_mem (all i x change ended)
  cases linear.current with
  | free history_eq idle =>
    exact ⟨w.order.length, le_rfl, every, by rw [history_eq, serial_length]⟩
  | @taken before i x order_eq change holds midway others =>
    have take_eq : w.order.take before.length = before := by simp [order_eq]
    obtain unsaved | saved := midway.answer_eq q
    · refine ⟨before.length, by simp [order_eq], ?_, by rw [unsaved, serial, take_eq]⟩
      intro j y change' ended
      have mem := all j y change' ended
      rw [order_eq, List.mem_append, List.mem_singleton] at mem
      obtain mem | same := mem
      · exact take_eq.symm ▸ List.mem_map_of_mem mem
      · -- the change that has the lock is not over
        obtain ⟨rfl, -⟩ := Prod.mk.inj same
        obtain rfl := Option.some.inj (change.symm.trans change')
        cases ended.symm.trans (ChangeStage.isOver_of_holdsLock holds)
    · refine ⟨w.order.length, le_rfl, every, ?_⟩
      rw [saved, serial_length, order_eq, List.map_append, List.map_singleton,
        History.afterAll_concat]

/-! ## Events -/

/-- A change that has the lock took it last, and no other one has it. -/
theorem Current.of_holdsLock (current : Current h w) {i : Nat} {x : ChangeInProgress}
    (change : w.changes[i]? = some x) (holds : x.stage.holdsLock = true) :
    ∃ before, w.order = before ++ [(i, x.change)] ∧
      x.stage.Midway (h.afterAll (before.map Prod.snd)) x.change w.history ∧
      ∀ {j : Nat} {y : ChangeInProgress}, j ≠ i → w.changes[j]? = some y →
        y.stage.holdsLock = false := by
  cases current with
  | free history_eq idle => cases holds.symm.trans (idle change)
  | @taken before j y order_eq change' holds' midway others =>
    by_cases same : i = j
    · subst same
      obtain rfl := Option.some.inj (change.symm.trans change')
      exact ⟨before, order_eq, midway, others⟩
    · cases holds.symm.trans (others same change)

/-- An event that touches no change leaves everything linear, if the readings are. -/
theorem Linear.of_same_changes (linear : Linear h w) (history_eq : w'.history = w.history)
    (changes_eq : w'.changes = w.changes) (order_eq : w'.order = w.order)
    (readings : ∀ r ∈ w'.readings, Seen h w r) : Linear h w' := by
  obtain ⟨history, changes, past, order⟩ := w
  obtain ⟨history', changes', past', order'⟩ := w'
  obtain ⟨rfl, rfl, rfl⟩ : history' = history ∧ changes' = changes ∧ order' = order :=
    ⟨history_eq, changes_eq, order_eq⟩
  obtain ⟨once, mem_order_iff, current, results, -⟩ := linear
  refine ⟨once, mem_order_iff, ?_, results, ?_⟩
  · cases current with
    | free history_eq idle => exact .free history_eq idle
    | taken order_eq change holds midway others => exact .taken order_eq change holds midway others
  · intro r mem
    obtain ⟨past, answer⟩ := readings r mem
    exact ⟨past, answer⟩

/-- A change that begins leaves everything linear, since it waits. -/
theorem Linear.change (linear : Linear h w) (c : Change) : Linear h (w.step (.change c)) := by
  have old : ∀ {i : Nat} {x : ChangeInProgress}, x.stage ≠ .waiting →
      ((w.step (.change c)).changes[i]? = some x ↔ w.changes[i]? = some x) := by
    intro i x begun
    refine getElem?_concat_eq_some_iff.trans (or_iff_left ?_)
    rintro ⟨-, rfl⟩
    exact begun rfl
  refine ⟨linear.once, ?_, ?_, ?_, ?_⟩
  · intro i c'
    refine linear.mem_order_iff.trans (exists_congr fun x => ?_)
    by_cases begun : x.stage = .waiting
    · simp [begun]
    · simp only [old begun]
  · cases linear.current with
    | free history_eq idle =>
      refine .free history_eq fun change => ?_
      obtain change | ⟨-, rfl⟩ := getElem?_concat_eq_some_iff.1 change
      · exact idle change
      · rfl
    | taken order_eq change holds midway others =>
      refine .taken order_eq (getElem?_concat_eq_some_iff.2 (.inl change)) holds midway ?_
      intro j y other change
      obtain change | ⟨-, rfl⟩ := getElem?_concat_eq_some_iff.1 change
      · exact others other change
      · rfl
  · intro n i c' x result entry change ended
    exact linear.results entry ((old (by simp [ended])).1 change) ended
  · intro r mem
    exact (linear.readings r mem).mono (List.append_nil _).symm fun change _ =>
      getElem?_concat_eq_some_iff.2 (.inl change)

theorem Linear.query (linear : Linear h w) (q : HistoryQuery) : Linear h (w.step (.query q)) := by
  refine linear.of_same_changes rfl rfl rfl ?_
  simp only [step, List.mem_append, List.mem_singleton]
  rintro r (old | rfl)
  · exact linear.readings r old
  · exact ⟨fun i mem => mem_past.1 mem, by simp⟩

theorem Linear.read (linear : Linear h w) (i : Nat) : Linear h (w.step (.read i)) := by
  simp only [step]
  split
  · next q past reading =>
    refine linear.of_same_changes rfl rfl rfl ?_
    intro r mem
    obtain old | rfl := List.mem_or_eq_of_mem_set mem
    · exact linear.readings r old
    · have seen := linear.readings _ (List.mem_of_getElem? reading)
      refine ⟨seen.past, ?_⟩
      rintro answer started ⟨⟩
      obtain ⟨n, within, every, answer_eq⟩ := linear.exists_serial q
      refine ⟨n, within, ?_, ?_, answer_eq⟩
      · intro j mem
        obtain ⟨x, change, ended⟩ := seen.past j mem
        exact every j x change ended
      · intro j mem
        obtain ⟨entry, entry_mem, rfl⟩ := List.mem_map.1 mem
        exact List.mem_map_of_mem (List.mem_of_mem_take entry_mem)
  · exact linear

section Setting

variable {i : Nat} {x x' : ChangeInProgress} (change : w.changes[i]? = some x)
  (changes_eq : w'.changes = w.changes.set i x')

include change changes_eq

omit [KeyValueStore σ] in
/-- The changes when one has gone on. -/
theorem change_set_iff {j : Nat} {y : ChangeInProgress} :
    w'.changes[j]? = some y ↔ j = i ∧ y = x' ∨ j ≠ i ∧ w.changes[j]? = some y := by
  rw [changes_eq]
  by_cases same : j = i
  · subst same
    rw [List.getElem?_set_self (List.getElem?_eq_some_iff.1 change).1]
    simp [eq_comm]
  · simp [List.getElem?_set_ne (Ne.symm same), same]

omit [KeyValueStore σ] in
/-- Changes that are over stay when another one goes on. -/
theorem stay_of_set (unended : x.stage.isOver = false) {j : Nat} {y : ChangeInProgress}
    (change' : w.changes[j]? = some y) (ended : y.stage.isOver = true) :
    w'.changes[j]? = some y := by
  refine (change_set_iff change changes_eq).2 (.inr ⟨?_, change'⟩)
  rintro rfl
  obtain rfl := Option.some.inj (change.symm.trans change')
  cases ended.symm.trans unended

variable (change_eq : x'.change = x.change) (readings_eq : w'.readings = w.readings)

include change_eq readings_eq

/-- A change that takes the free lock leaves everything linear. It comes last in the order. -/
theorem Linear.locks (linear : Linear h w) (waiting : x.stage = .waiting)
    (unlocked : w.history.locked = false) (reading : x'.stage = .reading)
    (history_eq : w'.history = { w.history with locked := true })
    (order_eq : w'.order = w.order ++ [(i, x.change)]) : Linear h w' := by
  have set_iff := fun {j y} => change_set_iff (j := j) (y := y) change changes_eq
  have new : ∀ c, (i, c) ∉ w.order := by
    intro c mem
    obtain ⟨y, change', -, begun⟩ := linear.mem_order_iff.1 mem
    obtain rfl := Option.some.inj (change.symm.trans change')
    exact begun waiting
  refine ⟨?_, ?_, ?_, ?_, ?_⟩
  · rw [order_eq, List.map_append, List.nodup_append]
    refine ⟨linear.once, by simp, ?_⟩
    rintro j mem _ last rfl
    obtain ⟨⟨j, c⟩, entry, rfl⟩ := List.mem_map.1 mem
    obtain rfl : j = i := by simpa using last
    exact new c entry
  · intro j c
    rw [order_eq, List.mem_append, List.mem_singleton, Prod.mk.injEq]
    by_cases same : j = i
    · subst same
      simp [new, set_iff, reading, change_eq, eq_comm]
    · simp [same, set_iff, linear.mem_order_iff]
  · cases linear.current with
    | free start_eq idle =>
      have holds : x'.stage.holdsLock = true := by rw [reading]; rfl
      refine .taken (change_eq ▸ order_eq) (set_iff.2 (.inl ⟨rfl, rfl⟩)) holds ?_ ?_
      · rw [reading, history_eq, start_eq]
        rfl
      · intro j y other change'
        obtain ⟨rfl, -⟩ | ⟨-, change'⟩ := set_iff.1 change'
        · exact absurd rfl other
        · exact idle change'
    | taken order_eq change holds midway others =>
      cases (midway.locked holds).symm.trans unlocked
  · intro n j c y result entry change' ended
    obtain ⟨rfl, rfl⟩ | ⟨other, change'⟩ := set_iff.1 change'
    · cases reading.symm.trans ended
    · have within : n < w.order.length := by
        by_contra beyond
        rw [order_eq, List.getElem?_append_right (by omega)] at entry
        obtain ⟨same, -⟩ : j = i ∧ c = x.change := by simpa using List.mem_of_getElem? entry
        exact other same
      rw [(serial_eq order_eq within.le).2]
      rw [order_eq, List.getElem?_append_left within] at entry
      exact linear.results entry change' ended
  · rw [readings_eq]
    intro r mem
    have unended : x.stage.isOver = false := by rw [waiting]; rfl
    exact (linear.readings r mem).mono order_eq (stay_of_set change changes_eq unended)

/-- A change that has the lock and goes on leaves everything linear. -/
theorem Linear.goesOn (linear : Linear h w) (free : h.locked = false)
    (holds : x.stage.holdsLock = true)
    (spec : ChangeInProgress.Step w.history x x' w'.history)
    (next : x'.stage.holdsLock = true ∨ x'.stage.isOver = true) (order_eq : w'.order = w.order) :
    Linear h w' := by
  have set_iff := fun {j y} => change_set_iff (j := j) (y := y) change changes_eq
  obtain ⟨before, last_eq, midway, others⟩ := linear.current.of_holdsLock change holds
  have midway : x'.stage.Midway (h.afterAll (before.map Prod.snd)) x.change w'.history := by
    obtain ⟨store, start_eq⟩ := h.afterAll_eq (before.map Prod.snd)
    exact change_eq ▸ spec.midway (by rw [start_eq, free]) midway
  have begun : x.stage ≠ .waiting := by
    intro waiting
    rw [waiting] at holds
    cases holds
  have begun' : x'.stage ≠ .waiting := by
    intro waiting
    rw [waiting] at next
    simp [ChangeStage.holdsLock, ChangeStage.isOver] at next
  refine ⟨order_eq ▸ linear.once, ?_, ?_, ?_, ?_⟩
  · intro j c
    rw [order_eq, linear.mem_order_iff]
    by_cases same : j = i
    · subst same
      simp [set_iff, change, change_eq, begun, begun']
    · simp [same, set_iff]
  · obtain holds' | ended := next
    · refine .taken (by rw [order_eq, last_eq, change_eq]) (set_iff.2 (.inl ⟨rfl, rfl⟩)) holds'
        (change_eq.symm ▸ midway) ?_
      intro j y other change'
      obtain ⟨rfl, -⟩ | ⟨-, change'⟩ := set_iff.1 change'
      · exact absurd rfl other
      · exact others other change'
    · obtain ⟨result, stage_eq⟩ := ChangeStage.isOver_iff.1 ended
      rw [stage_eq] at midway
      refine .free ?_ fun {j y} change' => ?_
      · rw [midway.1, order_eq, last_eq, List.map_append, List.map_singleton,
          History.afterAll_concat]
      · obtain ⟨rfl, rfl⟩ | ⟨other, change'⟩ := set_iff.1 change'
        · rw [stage_eq]
          rfl
        · exact others other change'
  · intro n j c y result entry change' ended
    rw [order_eq] at entry
    have same_serial : w'.serial h n = w.serial h n := by rw [serial, order_eq, serial]
    rw [same_serial]
    obtain ⟨rfl, rfl⟩ | ⟨other, change'⟩ := set_iff.1 change'
    · -- this change stands last in the order, and nowhere else
      obtain rfl : n = before.length := by
        refine (List.getElem?_inj ?_ linear.once).1 ?_
        · simpa using (List.getElem?_eq_some_iff.1 entry).1
        · rw [List.getElem?_map, entry]
          simp [last_eq]
      obtain rfl : c = x.change := by
        simpa [last_eq, eq_comm] using entry
      rw [ended] at midway
      rw [serial, last_eq, List.take_left]
      exact midway.2
    · exact linear.results entry change' ended
  · rw [readings_eq]
    intro r mem
    exact (linear.readings r mem).mono (by rw [order_eq, List.append_nil])
      (stay_of_set change changes_eq (ChangeStage.isOver_of_holdsLock holds))

end Setting

/-- A change that goes on as far as it can leaves everything linear. -/
theorem Linear.resume (linear : Linear h w) (free : h.locked = false) (i : Nat) :
    Linear h (w.step (.resume i)) := by
  cases change : w.changes[i]? with
  | none =>
    simp only [step, change]
    exact linear
  | some x =>
    have spec := x.step_spec w.history
    rcases step_eq : x.step w.history with ⟨x', history⟩
    rw [step_eq] at spec
    have next_eq : w.step (.resume i) = { w with
        history := history
        changes := w.changes.set i x'
        order := if !x.stage.holdsLock && x'.stage.holdsLock then w.order ++ [(i, x.change)]
          else w.order } := by
      simp only [step, change, step_eq]
    rw [next_eq]
    obtain ⟨unheld, rfl, rfl⟩ | ⟨waiting, reading, unlocked, rfl⟩ | ⟨holds, next⟩ := spec.progress
    · refine linear.of_same_changes rfl ?_ ?_ linear.readings
      · obtain ⟨bound, rfl⟩ := List.getElem?_eq_some_iff.1 change
        exact List.set_getElem_self bound
      · simp [unheld]
    · have reading : x'.stage = .reading := reading
      refine linear.locks change rfl spec.change_eq rfl waiting unlocked reading rfl ?_
      simp [waiting, reading, ChangeStage.holdsLock]
    · refine linear.goesOn change rfl spec.change_eq rfl free holds spec next ?_
      simp [holds]

/-- Every event leaves everything linear. -/
theorem Linear.step (linear : Linear h w) (free : h.locked = false) :
    ∀ e, Linear h (w.step e)
  | .change c => linear.change c
  | .resume i => linear.resume free i
  | .query q => linear.query q
  | .read i => linear.read i

/-- Every run leaves everything linear. -/
theorem Linear.run (free : h.locked = false) : ∀ (events : List HistoryEvent)
    {w : SharedHistory σ}, Linear h w → Linear h (w.run events)
  | [], _, linear => linear
  | e :: rest, _, linear => run free rest (linear.step free e)

/-- Nothing is under way when all changes are over. -/
theorem Linear.history_eq (linear : Linear h w)
    (ended : ∀ x ∈ w.changes, x.stage.isOver = true) :
    w.history = h.afterAll (w.order.map Prod.snd) := by
  cases linear.current with
  | free history_eq idle => exact history_eq
  | taken order_eq change holds midway others =>
    cases (ended _ (List.mem_of_getElem? change)).symm.trans (ChangeStage.isOver_of_holdsLock holds)

/-- However changes and readings interleave, everything is as if the changes were carried out one
after the other, in the order in which they took the lock. Each change returns what it returns
there, each reading answers what the history answers after some of the first changes, to which all
belong that were over when the reading began, and only such that had taken the lock when it was
answered, and when all changes are over, the history is the one after all of them. If the store
takes what is saved and all can be read again, then at each point every record is accounted for. -/
theorem interleaved_changes_are_serial [LawfulStore σ] (h : History σ) (free : h.locked = false)
    (events : List HistoryEvent) :
    let w := (ofHistory h).run events
    (w.order.map Prod.fst).Nodup ∧
    (∀ i c, (i, c) ∈ w.order ↔
      ∃ x, w.changes[i]? = some x ∧ x.change = c ∧ x.stage ≠ .waiting) ∧
    (∀ n i c x result, w.order[n]? = some (i, c) → w.changes[i]? = some x →
      x.stage = .over result → (w.serial h n).result c = result) ∧
    (∀ r ∈ w.readings, ∀ answer started, r.outcome = some (answer, started) → ∃ n,
      r.past ⊆ (w.order.take n).map Prod.fst ∧ (w.order.take n).map Prod.fst ⊆ started ∧
        answer = r.query.answer (w.serial h n)) ∧
    ((∀ x ∈ w.changes, x.stage.isOver = true) → w.history = w.serial h w.order.length) ∧
    ((∀ (store : σ) (text : String),
        ∃ store', KeyValueStore.save store History.key text = .ok store') →
      ∀ rs, h.records = .ok rs →
      (∀ x ∈ w.changes, ∀ record, x.change = .append record → History.Storable record) →
      ∀ n, ∃ kept, (w.serial h n).records = .ok kept ∧
        Change.Accounted h.limit ((w.order.take n).map Prod.snd) rs kept) := by
  intro w
  have linear : Linear h w := Linear.run free events (linear_ofHistory h)
  refine ⟨linear.once, fun i c => linear.mem_order_iff,
    fun n i c x result => linear.results, ?_, ?_, ?_⟩
  · intro r mem answer started outcome
    obtain ⟨n, -, past, known, answer_eq⟩ := (linear.readings r mem).answer answer started outcome
    exact ⟨n, past, known, answer_eq⟩
  · intro ended
    rw [linear.history_eq ended, serial_length]
  · intro takes rs read storable n
    refine ⟨_, History.records_afterAll takes read ?_, Change.accounted_applyAll ..⟩
    intro record mem
    obtain ⟨⟨i, c⟩, entry, rfl⟩ := List.mem_map.1 mem
    obtain ⟨x, change, adds, -⟩ := linear.mem_order_iff.1 (List.mem_of_mem_take entry)
    exact storable x (List.mem_of_getElem? change) record adds

/-- A record is added and then all are removed, and somebody reads while the first change is on its
way : the answer is that of the history without the record. -/
theorem added_then_removed :
    let record := HistoryRecord.ofDocument ⟨"sample", ⟨0, 0⟩⟩ .sample .sample
    let h : History MemoryStore := .ofStore .empty History.defaultLimit
    let before : List HistoryEvent := [.change (.append record), .change .clear, .query .list,
      .resume 0, .resume 1, .resume 0, .read 0]
    let rest : List HistoryEvent :=
      [.resume 0, .resume 0, .resume 1, .resume 1, .resume 1, .resume 1]
    ∃ w, (ofHistory h).run (before ++ rest) = w ∧ w.order = [(0, .append record), (1, .clear)] ∧
      w.history = w.serial h 2 ∧
      (∃ kept, w.history.records = .ok kept ∧
        Change.Accounted h.limit [.append record, .clear] [] kept) ∧
      ∃ n, HistoryAnswer.records (.ok []) = HistoryQuery.list.answer (w.serial h n) := by
  intro record h before rest
  let stored : MemoryStore := MemoryStore.empty.put History.key (HistoryRecord.encodeAll [record])
  let w : SharedHistory MemoryStore :=
    ⟨{ h with store := stored.put History.key (HistoryRecord.encodeAll []) },
      [⟨.append record, .over (.ok true)⟩, ⟨.clear, .over (.ok true)⟩],
      [⟨.list, [], some (.records (.ok []), [0])⟩], [(0, .append record), (1, .clear)]⟩
  have midway : (ofHistory h).run before = ⟨{ h with locked := true },
      [⟨.append record, .saving [record]⟩, ⟨.clear, .waiting⟩],
      [⟨.list, [], some (.records (.ok []), [0])⟩], [(0, .append record)]⟩ := rfl
  have run_eq : (ofHistory h).run (before ++ rest) = w := by
    rw [run_append, midway]
    rfl
  have linear := interleaved_changes_are_serial h rfl (before ++ rest)
  rw [run_eq] at linear
  obtain ⟨-, -, -, readings, final, accounted⟩ := linear
  have final : w.history = w.serial h 2 := final (by simp [w, ChangeStage.isOver])
  have time : (⟨0, 0⟩ : Timestamp).Valid := ⟨by decide, .inl (by decide)⟩
  have storable : History.Storable record :=
    History.storable_ofDocument time .sample (by decide)
  have accounted := accounted (fun store text => ⟨_, rfl⟩) [] rfl (by simpa [w] using storable) 2
  obtain ⟨n, -, -, answer_eq⟩ := readings _ (.head _) _ _ rfl
  exact ⟨w, run_eq, rfl, final, final ▸ accounted, n, answer_eq⟩

end SharedHistory

end Wireframe
