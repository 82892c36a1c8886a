import Wireframe.Proofs.Document.Roundtrip
import Wireframe.Proofs.Session.Failure
import Wireframe.Proofs.Session.Recorded

/-!
# Resuming and restoring

Where calls come one after the other, each has a `Turn` of its own. A turn that succeeds shows its
document and leaves its record as the latest one, the written document in it
(`Session.of_take_ok`), and a turn that fails changes nothing. Whatever way a document came, it is
stable, so the record validates to the document that it was made of, whatever gives the ids : a
session that resumes with the history shows the document that was shown last, and every record that
is still there restores what was shown when it was written
(`Session.recorded_documents_return`).

Nothing is assumed of the history but that it can be read in the end. Then it could be read all the
time, since a turn that cannot read the history leaves it alone (`Session.exists_records_of_play`).
-/

namespace Wireframe

/-- One of the calls that a session takes one after the other. -/
structure Turn where
  stamp : Stamp
  request : Request
  /-- What the service says to an edit. -/
  assist : AssistRequest → Except ServiceError AssistReply
  /-- What the service says to a generation. -/
  generate : GenerateRequest → Except ServiceError GenerateReply
  /-- The ids of nodes that have none. Made at random they are others in every turn. -/
  ids : Path → String

namespace Session

variable {σ : Type}

/-! ## Turns -/

section Turns

variable [KeyValueStore σ]

/-- The call of a turn carried through. -/
def perform (s : Session σ) (t : Turn) : Except SessionError Revision × Session σ :=
  match t.request with
  | .load source raw =>
    let (result, s) := s.load t.stamp source raw
    (result.map Prod.snd, s)
  | .loadText source text =>
    let (result, s) := s.loadText t.stamp source text
    (result.map Prod.snd, s)
  | .chat instruction => s.chat t.assist t.stamp instruction
  | .generate => s.generate t.generate t.stamp
  | .restore id => s.restore t.stamp id

/-- A turn taken with its ids : its result, and the session after it. -/
def take (s : Session σ) (t : Turn) : Except SessionError Revision × Session σ :=
  let (result, next) := (s.withIds t.ids).perform t
  (result, next.withIds s.policy.validation.ids)

/-- The session after turns in their order. -/
def play (s : Session σ) (turns : List Turn) : Session σ :=
  turns.foldl (fun s t => (s.take t).2) s

/-- Whether one of the turns led from one session to the next, with this result. -/
def Took (s : Session σ) (turns : List Turn) (now : Session σ)
    (result : Except SessionError Revision) (next : Session σ) : Prop :=
  ∃ before t after, turns = before ++ t :: after ∧ s.play before = now ∧
    now.take t = (result, next)

/-- The revision that a turn makes. -/
def made (s : Session σ) (t : Turn) : Except SessionError Revision :=
  match t.request with
  | .load source raw => (s.ingested t.stamp source raw).map Prod.snd
  | .loadText source text => (s.ingestedText t.stamp source text).map Prod.snd
  | .chat instruction =>
    s.edited s.edition t.stamp instruction (t.assist (s.assistRequest instruction))
  | .generate => s.generated s.edition t.stamp (t.generate s.generateRequest)
  | .restore id => s.restored t.stamp id

/-- Whether a document was ingested makes no difference to its revision. -/
theorem commitIngested_eq (s : Session σ) (made : Except SessionError (Origin × Revision)) :
    ((s.commitIngested made).1.map Prod.snd, (s.commitIngested made).2) =
      s.commitResult (made.map Prod.snd) := by
  obtain e | ⟨origin, r⟩ := made
  · rfl
  · have commit_eq : (s.commitResult (.ok r)) = s.commit r := rfl
    simp only [commitIngested, Except.map, commit_eq]
    rcases s.commit r with ⟨e | r', s'⟩ <;> rfl

/-- Every call makes a revision and commits it. -/
theorem perform_eq (s : Session σ) (t : Turn) : s.perform t = s.commitResult (s.made t) := by
  unfold perform made
  cases t.request with
  | load source raw => exact commitIngested_eq s _
  | loadText source text => exact commitIngested_eq s _
  | chat | generate | restore => rfl

end Turns

/-! ## What a turn makes -/

end Session

/-- Revisions whose record keeps, and validates to their document. -/
structure Revision.Restorable (bound : Nat) (r : Revision) : Prop where
  document_eq : r.record.document = r.document.toJson
  stable : r.document.Stable bound
  keeps : r.record.Keeps

namespace Session

variable {σ : Type} [KeyValueStore σ] {s s' : Session σ} {t : Turn} {r : Revision}

/-- The revision of a turn is in time. -/
theorem current_of_made (made_eq : s.made t = .ok r) : r.base.all (· = s.edition) = true := by
  unfold made at made_eq
  split at made_eq
  · obtain ⟨origin, made_eq⟩ := map_snd_eq_ok_iff.1 made_eq
    simp [base_of_ingested made_eq]
  · obtain ⟨origin, made_eq⟩ := map_snd_eq_ok_iff.1 made_eq
    simp [base_of_ingestedText made_eq]
  · simp [base_of_edited made_eq]
  · simp [base_of_generated made_eq]
  · simp [base_of_restored made_eq]

omit [KeyValueStore σ] in
/-- What is ingested with the standard strategies can be restored. -/
theorem restorable_of_ingested {source : SourceTag} {raw : Json} {origin : Origin} {stamp : Stamp}
    (standard : s.strategies = Strategy.standard) (deep : 2 ≤ s.policy.validation.maxDepth)
    (time : stamp.time.Valid) (made_eq : s.ingested stamp source raw = .ok (origin, r)) :
    r.Restorable s.policy.validation.maxDepth := by
  refine ⟨?_, ?_, keeps_of_ingested time made_eq⟩
  all_goals
    obtain ⟨d, taken, rfl⟩ := ingested_eq_ok_iff.1 made_eq
    rw [standard] at taken
  · rfl
  · exact stable_of_ingest deep taken

/-- The revision of a turn can be restored, in whatever way its document came. -/
theorem restorable_of_made (standard : s.strategies = Strategy.standard)
    (deep : 2 ≤ s.policy.validation.maxDepth) (time : t.stamp.time.Valid)
    (made_eq : s.made t = .ok r) : r.Restorable s.policy.validation.maxDepth := by
  unfold made at made_eq
  split at made_eq
  · obtain ⟨origin, made_eq⟩ := map_snd_eq_ok_iff.1 made_eq
    exact restorable_of_ingested standard deep time made_eq
  · obtain ⟨origin, made_eq⟩ := map_snd_eq_ok_iff.1 made_eq
    obtain ⟨raw, -, made_eq⟩ := ingestedText_eq_ok_iff.1 made_eq
    exact restorable_of_ingested standard deep time made_eq
  · have keeps := keeps_of_edited time made_eq
    obtain ⟨reply, d, -, accepted, rfl⟩ := edited_eq_ok_iff.1 made_eq
    exact ⟨rfl, Document.stable_of_validate (reviewed_eq_ok_iff.1 accepted).1, keeps⟩
  · have keeps := keeps_of_generated time made_eq
    obtain ⟨reply, d, -, accepted, rfl⟩ := generated_eq_ok_iff.1 made_eq
    exact ⟨rfl, Document.stable_of_validate (reviewed_eq_ok_iff.1 accepted).1, keeps⟩
  · have keeps := keeps_of_restored time made_eq
    obtain ⟨snapshot, d, -, valid, rfl⟩ := restored_eq_ok_iff.1 made_eq
    exact ⟨rfl, Document.stable_of_validate valid, keeps⟩

/-! ## What a turn does -/

/-- A revision in time is committed if its record is added to the history. -/
theorem commit_eq_ok_iff {r' : Revision} (current : r.base.all (· = s.edition) = true) :
    s.commit r = (.ok r', s') ↔ r' = r ∧ ∃ history, s.history.append r.record = .ok history ∧
      s' = { s with history := history }.showing r := by
  unfold commit
  cases appended : s.history.append r.record with
  | error e => simp
  | ok history =>
    have settled : settle { s with history := history } r = (.ok r, _) := settle_of_current current
    simp [settled, eq_comm]

/-- A turn that succeeds adds the record of its revision to the history and shows its document. -/
theorem take_eq_ok_iff : s.take t = (.ok r, s') ↔ (s.withIds t.ids).made t = .ok r ∧
    ∃ history, s.history.append r.record = .ok history ∧
      s' = { s with history := history }.showing r := by
  unfold take
  rw [perform_eq]
  cases made_eq : (s.withIds t.ids).made t with
  | error e => simp [commitResult]
  | ok r₁ =>
    have current := current_of_made made_eq
    rcases commit_eq : (s.withIds t.ids).commitResult (.ok r₁) with ⟨e | r₂, s₂⟩
    · constructor
      · rintro ⟨⟩
      · rintro ⟨⟨⟩, history, appended, -⟩
        have committed : (s.withIds t.ids).commit r = (.ok r, _) :=
          (commit_eq_ok_iff current).2 ⟨rfl, history, appended, rfl⟩
        cases commit_eq.symm.trans committed
    · obtain ⟨rfl, history, appended, rfl⟩ := (commit_eq_ok_iff current).1 commit_eq
      constructor
      · rintro ⟨⟩
        exact ⟨rfl, history, appended, rfl⟩
      · rintro ⟨⟨⟩, history', appended', rfl⟩
        obtain rfl := Except.ok.inj (appended.symm.trans appended')
        rfl

/-- A turn that fails changes nothing. -/
theorem take_of_error {e : SessionError} (taken : s.take t = (.error e, s')) : s' = s := by
  have failed : ((s.withIds t.ids).commitResult ((s.withIds t.ids).made t)).1 = .error e := by
    rw [← perform_eq]
    exact congrArg Prod.fst taken
  have same := commitResult_of_error (fun _ => current_of_made) failed
  rw [← perform_eq] at same
  calc s' = ((s.withIds t.ids).perform t).2.withIds s.policy.validation.ids :=
        (congrArg Prod.snd taken).symm
    _ = s := by rw [same]; rfl

/-- A turn leaves the policy and the strategies alone. -/
theorem settings_take (s : Session σ) (t : Turn) : (s.take t).2.policy = s.policy ∧
    (s.take t).2.strategies = s.strategies := by
  rcases taken : s.take t with ⟨e | r, next⟩
  · obtain rfl := take_of_error taken
    exact ⟨rfl, rfl⟩
  · obtain ⟨-, history, -, rfl⟩ := take_eq_ok_iff.1 taken
    exact ⟨rfl, rfl⟩

/-- A history that can be read after a turn could be read before. -/
theorem exists_records_of_take {rs : List HistoryRecord}
    (read : (s.take t).2.history.records = .ok rs) : ∃ old, s.history.records = .ok old := by
  rcases taken : s.take t with ⟨e | r, next⟩
  · rw [taken, take_of_error taken] at read
    exact ⟨rs, read⟩
  · obtain ⟨-, history, appended, -⟩ := take_eq_ok_iff.1 taken
    obtain ⟨old, old_eq, -⟩ := History.append_eq_ok_iff.1 appended
    exact ⟨old, old_eq⟩

/-- A turn that succeeds makes a revision that can be restored, shows its document, and adds its
record to the others, if what it saves can be read. -/
theorem of_take_ok [LawfulStore σ] (standard : s.strategies = Strategy.standard)
    (deep : 2 ≤ s.policy.validation.maxDepth) (time : t.stamp.time.Valid)
    (taken : s.take t = (.ok r, s')) {rs : List HistoryRecord}
    (read : s'.history.records = .ok rs) :
    r.Restorable s.policy.validation.maxDepth ∧ s'.document = r.document ∧
      ∃ old, s.history.records = .ok old ∧
        rs = History.latest s.history.limit (old ++ [r.record]) := by
  obtain ⟨made_eq, history, appended, rfl⟩ := take_eq_ok_iff.1 taken
  have restorable : r.Restorable s.policy.validation.maxDepth :=
    restorable_of_made (s := s.withIds t.ids) standard deep time made_eq
  refine ⟨restorable, rfl, ?_⟩
  obtain ⟨old, old_eq, saved⟩ := History.append_eq_ok_iff.1 appended
  rw [← s.history.latest_append] at saved
  have keeps : ∀ record ∈ History.latest s.history.limit (old ++ [r.record]), record.Keeps := by
    intro record mem
    obtain mem | mem := List.mem_append.1 (List.mem_of_mem_drop mem)
    · exact (History.of_records old_eq record mem).1
    · exact List.mem_singleton.1 mem ▸ restorable.keeps
  have back : history.records = History.readBack _ := History.records_of_save saved keeps
  exact ⟨old, old_eq, History.eq_of_readBack (back.symm.trans read)⟩

/-! ## Turns one after the other -/

@[simp] theorem play_nil (s : Session σ) : s.play [] = s :=
  rfl

@[simp] theorem play_cons (s : Session σ) (t : Turn) (rest : List Turn) :
    s.play (t :: rest) = (s.take t).2.play rest :=
  rfl

theorem play_append (s : Session σ) (before after : List Turn) :
    s.play (before ++ after) = (s.play before).play after :=
  List.foldl_append

theorem settings_play : ∀ (turns : List Turn) (s : Session σ), (s.play turns).policy = s.policy ∧
    (s.play turns).strategies = s.strategies
  | [], _ => ⟨rfl, rfl⟩
  | t :: rest, s => by
    obtain ⟨policy_eq, strategies_eq⟩ := settings_play rest (s.take t).2
    rw [play_cons, policy_eq, strategies_eq]
    exact s.settings_take t

/-- A history that can be read in the end could be read all the time. -/
theorem exists_records_of_play : ∀ {turns : List Turn} {s : Session σ} {rs : List HistoryRecord},
    (s.play turns).history.records = .ok rs → ∃ old, s.history.records = .ok old
  | [], _, rs, read => ⟨rs, read⟩
  | t :: rest, s, rs, read => by
    rw [play_cons] at read
    obtain ⟨next, read_next⟩ := exists_records_of_play read
    exact exists_records_of_take read_next

/-! ## Resuming -/

/-- Sessions whose latest record validates to their document, whatever gives the ids. -/
def Resumable (s : Session σ) : Prop :=
  s.document.Stable s.policy.validation.maxDepth ∧
    ∃ old record, s.history.records = .ok (old ++ [record]) ∧ record.document = s.document.toJson

/-- A session that took a revision is resumable. -/
theorem resumable_of_take [LawfulStore σ] (standard : s.strategies = Strategy.standard)
    (deep : 2 ≤ s.policy.validation.maxDepth) (time : t.stamp.time.Valid)
    (taken : s.take t = (.ok r, s')) {rs : List HistoryRecord}
    (read : s'.history.records = .ok rs) :
    s'.Resumable := by
  obtain ⟨restorable, document_eq, old, -, rfl⟩ := of_take_ok standard deep time taken read
  have policy_eq : s'.policy = s.policy := by
    have := (s.settings_take t).1
    rwa [taken] at this
  rw [s.history.latest_append] at read
  rw [Resumable, policy_eq, document_eq]
  exact ⟨restorable.stable, _, _, read, restorable.document_eq⟩

/-- A session that was resumable once is resumable ever after. -/
theorem Resumable.play [LawfulStore σ] : ∀ (turns : List Turn) {s : Session σ}
    {rs : List HistoryRecord}, s.Resumable → s.strategies = Strategy.standard →
    2 ≤ s.policy.validation.maxDepth → (∀ t ∈ turns, t.stamp.time.Valid) →
    (s.play turns).history.records = .ok rs → (s.play turns).Resumable
  | [], _, _, resumable, _, _, _, _ => resumable
  | t :: rest, s, rs, resumable, standard, deep, times, read => by
    obtain ⟨policy_eq, strategies_eq⟩ := s.settings_take t
    rw [play_cons] at read ⊢
    obtain ⟨next, next_eq⟩ := exists_records_of_play read
    refine play rest ?_ (strategies_eq.trans standard) (policy_eq ▸ deep)
      (fun t mem => times t (by simp [mem])) read
    rcases taken : s.take t with ⟨e | r, s'⟩
    · exact take_of_error taken ▸ resumable
    · rw [taken] at next_eq
      exact resumable_of_take standard deep (times t (by simp)) taken next_eq

/-- A resumable session is what a session that resumes with its history shows. -/
theorem Resumable.resume (resumable : s.Resumable) (ids : Path → String) :
    (∃ newest rest, s.history.list = .ok (newest :: rest) ∧
      Document.validate ⟨ids, s.policy.validation.maxDepth⟩ newest.document = .ok s.document) ∧
    ∃ again, resume (s.withIds ids).policy s.strategies s.history = .ok again ∧
      again.document = s.document := by
  obtain ⟨stable, old, newest, read, document_eq⟩ := resumable
  have listed : s.history.list = .ok (newest :: old.reverse) := by
    simp [History.list, read, Except.map]
  have valid : Document.validate ⟨ids, s.policy.validation.maxDepth⟩ newest.document =
      .ok s.document := document_eq ▸ stable.validate_toJson ids
  refine ⟨⟨newest, old.reverse, listed, valid⟩, _, by rw [Session.resume, listed]; rfl, ?_⟩
  have options_eq : (s.withIds ids).policy.validation = ⟨ids, s.policy.validation.maxDepth⟩ := rfl
  simp [options_eq, valid, Except.toOption, start]

/-! ## Restoring -/

/-- A stored record is found by its id if no other one has it. -/
theorem snapshot_of_stored {rs : List HistoryRecord} {record : HistoryRecord}
    (read : s.history.records = .ok rs) (distinct : (rs.map HistoryRecord.id).Nodup)
    (stored : record ∈ rs) : s.snapshot record.id = .ok record := by
  have found : rs.find? (fun r => r.id = record.id) = some record := by
    cases found : rs.find? (fun r => r.id = record.id) with
    | none => simpa using List.find?_eq_none.1 found record stored
    | some other =>
      have same : other.id = record.id := by simpa using List.find?_some found
      rw [List.inj_on_of_nodup_map distinct (List.mem_of_find?_eq_some found) stored same]
  simp [snapshot, History.find?, read, Except.map, found]

/-- A stored record that was made of a stable document restores it, if the store takes another
record. -/
theorem restore_of_stored {rs : List HistoryRecord} {record : HistoryRecord} {d : Document}
    (stamp : Stamp) (read : s.history.records = .ok rs)
    (distinct : (rs.map HistoryRecord.id).Nodup) (stored : record ∈ rs)
    (document_eq : record.document = d.toJson) (stable : d.Stable s.policy.validation.maxDepth)
    (takes : ∀ text, ∃ store, KeyValueStore.save s.history.store History.key text = .ok store) :
    ∃ r, (s.restore stamp record.id).1 = .ok r ∧ r.document = d ∧
      (s.restore stamp record.id).2.document = d := by
  obtain ⟨r, made_eq, shown_eq, base_eq⟩ : ∃ r, s.restored stamp record.id = .ok r ∧
      r.document = d ∧ r.base = none := by
    have valid : Document.validate s.policy.validation record.document = .ok d :=
      document_eq ▸ stable.validate_toJson s.policy.validation.ids
    exact ⟨_, restored_eq_ok_iff.2
      ⟨record, d, snapshot_of_stored read distinct stored, valid, rfl⟩, rfl, rfl⟩
  obtain ⟨history, appended⟩ : ∃ history, s.history.append r.record = .ok history := by
    obtain ⟨store, saved⟩ := takes (HistoryRecord.encodeAll
      (rs.drop (rs.length + 1 - s.history.limit) ++ [r.record]))
    exact ⟨_, History.append_eq_ok_iff.2 ⟨rs, read, History.save_eq_ok_iff.2 ⟨store, saved, rfl⟩⟩⟩
  have committed : s.commit r = (.ok r, _) :=
    (commit_eq_ok_iff (by simp [base_eq])).2 ⟨rfl, history, appended, rfl⟩
  refine ⟨r, ?_, shown_eq, ?_⟩
  · rw [restore, made_eq, commitResult, committed]
  · rw [restore, made_eq, commitResult, committed]
    exact shown_eq

/-- What a turn among others does that succeeded, if the history can be read in the end. -/
theorem Took.of_ok [LawfulStore σ] {turns : List Turn} {now next : Session σ}
    (took : s.Took turns now (.ok r) next) (standard : s.strategies = Strategy.standard)
    (deep : 2 ≤ s.policy.validation.maxDepth) (times : ∀ t ∈ turns, t.stamp.time.Valid)
    {rs : List HistoryRecord} (read : (s.play turns).history.records = .ok rs) :
    r.Restorable s.policy.validation.maxDepth ∧ next.document = r.document ∧
      (∃ old, now.history.records = .ok old ∧
        next.history.records = .ok (History.latest now.history.limit (old ++ [r.record]))) ∧
      (s.play turns).Resumable := by
  obtain ⟨before, t, after, rfl, rfl, taken⟩ := took
  obtain ⟨policy_eq, strategies_eq⟩ := s.settings_play before
  have next_eq : ((s.play before).take t).2 = next := congrArg Prod.snd taken
  rw [play_append, play_cons, next_eq] at read ⊢
  obtain ⟨all, read_next⟩ := exists_records_of_play read
  have standard_now : (s.play before).strategies = Strategy.standard := strategies_eq.trans standard
  have deep_now : 2 ≤ (s.play before).policy.validation.maxDepth := policy_eq ▸ deep
  have time : t.stamp.time.Valid := times t (by simp)
  obtain ⟨restorable, document_eq, old, old_eq, rfl⟩ :=
    of_take_ok standard_now deep_now time taken read_next
  obtain ⟨policy_eq', strategies_eq'⟩ := (s.play before).settings_take t
  rw [next_eq] at policy_eq' strategies_eq'
  refine ⟨policy_eq ▸ restorable, document_eq, ⟨old, old_eq, read_next⟩, ?_⟩
  exact (resumable_of_take standard_now deep_now time taken read_next).play after
    (strategies_eq'.trans standard_now) (policy_eq' ▸ deep_now)
    (fun t mem => times t (by simp [mem])) read

/-- What turns record can always be resumed and restored. Take a session with the standard
strategies and the default bound, whatever it shows and whatever is in its history, and any turns
one after the other, after which the history can be read and no two of its records have one id.
A turn that fails changes nothing, and one that succeeds adds one record, with the written form of
the document that is shown then. Once a turn has succeeded, the latest record validates to the
document that is shown, and a session that resumes with the history shows it. Every record of a
turn that is still there restores the document that was shown when it was written. Nodes that have
no id may be given any. -/
theorem recorded_documents_return [LawfulStore σ] (s : Session σ) (turns : List Turn)
    (standard : s.strategies = Strategy.standard)
    (default : s.policy.validation.maxDepth = defaultMaxDepth)
    (times : ∀ t ∈ turns, t.stamp.time.Valid) {rs : List HistoryRecord}
    (read : (s.play turns).history.records = .ok rs)
    (distinct : (rs.map HistoryRecord.id).Nodup) :
    let last := s.play turns
    (∀ now e next, s.Took turns now (.error e) next → next = now) ∧
    (∀ now r next, s.Took turns now (.ok r) next →
      r.record.document = next.document.toJson ∧ ∃ old, now.history.records = .ok old ∧
        next.history.records = .ok (History.latest now.history.limit (old ++ [r.record]))) ∧
    ((∃ now r next, s.Took turns now (.ok r) next) → ∀ ids,
      (∃ newest rest, last.history.list = .ok (newest :: rest) ∧
        Document.validate ⟨ids, defaultMaxDepth⟩ newest.document = .ok last.document) ∧
      ∃ again, resume (last.withIds ids).policy last.strategies last.history = .ok again ∧
        again.document = last.document) ∧
    ∀ now r next, s.Took turns now (.ok r) next → r.record ∈ rs → ∀ ids stamp,
      (∀ text, ∃ store, KeyValueStore.save last.history.store History.key text = .ok store) →
      ∃ restored, ((last.withIds ids).restore stamp r.record.id).1 = .ok restored ∧
        restored.document = next.document ∧
        ((last.withIds ids).restore stamp r.record.id).2.document = next.document := by
  intro last
  have deep : 2 ≤ s.policy.validation.maxDepth := by simp [default, defaultMaxDepth]
  have policy_eq : last.policy = s.policy := (s.settings_play turns).1
  refine ⟨?_, ?_, ?_, ?_⟩
  · rintro now e next ⟨before, t, after, -, -, taken⟩
    exact take_of_error taken
  · intro now r next took
    obtain ⟨restorable, document_eq, added, -⟩ := took.of_ok standard deep times read
    exact ⟨document_eq ▸ restorable.document_eq, added⟩
  · rintro ⟨now, r, next, took⟩ ids
    obtain ⟨-, -, -, resumable⟩ := took.of_ok standard deep times read
    have resumed := resumable.resume ids
    rwa [policy_eq, default] at resumed
  · intro now r next took stored ids stamp takes
    obtain ⟨restorable, document_eq, -, -⟩ := took.of_ok standard deep times read
    rw [document_eq]
    have stable : r.document.Stable (last.withIds ids).policy.validation.maxDepth := by
      have bound_eq : (last.withIds ids).policy.validation.maxDepth =
          s.policy.validation.maxDepth := by rw [← policy_eq]; rfl
      exact bound_eq ▸ restorable.stable
    exact restore_of_stored stamp read distinct stored restorable.document_eq stable takes

/-- A single word makes a login screen. After a text that is no JSON, the screen comes back by
resuming and by restoring, though other ids are given now. -/
theorem converted_screen_returns :
    let stamp : Stamp := ⟨"record", ⟨0, 0⟩⟩
    let screen : Document := .ofRoot (Strategy.loginScreen ⟨false, true, false⟩ none)
    let turn (request : Request) : Turn :=
      ⟨stamp, request, fun _ => .error .unreachable, fun _ => .error .unreachable, Path.nodeId⟩
    let turns := [turn (.load .upload (.string "Senha")), turn (.loadText .upload "Senha")]
    let s := SharedSession.sampleInMemory
    let last := s.play turns
    let record := HistoryRecord.ofDocument stamp .converted screen
    s.strategies = Strategy.standard ∧ s.policy.validation.maxDepth = defaultMaxDepth ∧
      (∀ t ∈ turns, t.stamp.time.Valid) ∧ last.history.records = .ok [record] ∧
      ([record].map HistoryRecord.id).Nodup ∧ last.document = screen ∧
      (∃ again, resume (last.withIds fun _ => "id").policy last.strategies last.history =
        .ok again ∧ again.document = screen) ∧
      ∃ restored, ((last.withIds fun _ => "id").restore stamp "record").1 = .ok restored ∧
        restored.document = screen := by
  intro stamp screen turn turns s last record
  have time : (⟨0, 0⟩ : Timestamp).Valid := ⟨by decide, .inl (by decide)⟩
  have times : ∀ t ∈ turns, t.stamp.time.Valid := by simpa [turns, turn, stamp] using time
  obtain ⟨r, next, loaded, record_eq, shown, saved⟩ : ∃ r next,
      s.take (turn (.load .upload (.string "Senha"))) = (.ok r, next) ∧ r.record = record ∧
        next.document = screen ∧ s.history.save [record] = .ok next.history :=
    ⟨_, _, rfl, rfl, rfl, rfl⟩
  have last_eq : last = next := by
    have refused : next.take (turn (.loadText .upload "Senha")) = (.error .notJson, next) := rfl
    simp only [last, turns, play_cons, play_nil, loaded, refused]
  have read : last.history.records = .ok [record] := by
    have keeps : record.Keeps := HistoryRecord.keeps_ofDocument time .converted screen
    have flat : record.document.nesting ≤ HistoryRecord.levels := by decide
    simp [last_eq, History.records_of_save saved (by simpa using keeps), flat]
  have took : s.Took turns s (.ok r) next := ⟨[], _, _, rfl, rfl, loaded⟩
  obtain ⟨-, -, resumes, restores⟩ :=
    recorded_documents_return s turns rfl rfl times read (by simp)
  obtain ⟨-, again, resumed, again_eq⟩ := resumes ⟨s, r, next, took⟩ fun _ => "id"
  obtain ⟨restored, restored_eq, document_eq, -⟩ := restores s r next took (by simp [record_eq])
    (fun _ => "id") stamp fun text => ⟨_, rfl⟩
  rw [record_eq] at restored_eq
  have last_shown : last.document = screen := by rw [last_eq, shown]
  exact ⟨rfl, rfl, times, read, by simp, last_shown, ⟨again, resumed, again_eq.trans last_shown⟩,
    restored, restored_eq, document_eq.trans shown⟩

end Session

end Wireframe
