import Wireframe.Proofs.Results
import Wireframe.Session.Call

/-!
# What revisions are made of

For each way in which a document comes, when there is a revision and what it holds.
-/

namespace Wireframe

namespace Session

variable {σ : Type} {s : Session σ} {stamp : Stamp} {r : Revision}

/-- A raw value makes a revision if it is taken in, recorded as converted if it was. -/
theorem ingested_eq_ok_iff {source : SourceTag} {raw : Json} {origin : Origin} :
    s.ingested stamp source raw = .ok (origin, r) ↔
      ∃ d, ingest s.policy s.strategies raw = .ok ⟨d, origin⟩ ∧
        r = ⟨d, .ofDocument stamp (if origin = .validated then source else .converted) d,
          none, []⟩ := by
  unfold ingested
  rcases ingest s.policy s.strategies raw with e | ⟨d, _ | strategy⟩
  · simp
  · constructor
    · rintro ⟨⟩
      exact ⟨d, rfl, rfl⟩
    · rintro ⟨_, ⟨⟩, rfl⟩
      rfl
  · constructor
    · rintro ⟨⟩
      exact ⟨d, rfl, rfl⟩
    · rintro ⟨_, ⟨⟩, rfl⟩
      rfl

/-- A text makes a revision if it is JSON that makes one. -/
theorem ingestedText_eq_ok_iff {source : SourceTag} {text : String} {made : Origin × Revision} :
    s.ingestedText stamp source text = .ok made ↔
      ∃ raw, Json.parse? text = some raw ∧ s.ingested stamp source raw = .ok made := by
  unfold ingestedText
  cases Json.parse? text <;> simp

/-- A proposal is accepted if it is valid and in time. -/
theorem reviewed_eq_ok_iff {base : Nat} {raw : Json} {d : Document} :
    s.reviewed base raw = .ok d ↔
      Document.validate s.policy.validation raw = .ok d ∧ s.edition = base := by
  unfold reviewed
  cases Document.validate s.policy.validation raw with
  | error issues => simp
  | ok document =>
    by_cases current : s.edition = base
    · simp [current]
    · simp [current]

/-- An edit makes a revision if its proposal is accepted. -/
theorem edited_eq_ok_iff {base : Nat} {instruction : String}
    {answer : Except ServiceError AssistReply} :
    s.edited base stamp instruction answer = .ok r ↔
      ∃ reply d, answer = .ok reply ∧ s.reviewed base reply.document = .ok d ∧
        r = ⟨d, { HistoryRecord.ofDocument stamp .chat d with summary := reply.summary },
          some base, editMessages instruction reply.summary⟩ := by
  cases answer with
  | error e => simp [edited]
  | ok reply =>
    rw [edited, bind_eq_ok_iff]
    simp [pure, Except.pure, eq_comm]

/-- A generation makes a revision if its proposal is accepted. -/
theorem generated_eq_ok_iff {base : Nat} {answer : Except ServiceError GenerateReply} :
    s.generated base stamp answer = .ok r ↔
      ∃ reply d, answer = .ok reply ∧ s.reviewed base reply.document = .ok d ∧
        r = ⟨d, { HistoryRecord.ofDocument stamp .hybrid d with
            generatedCode := reply.generatedCode
            qaText := reply.qaText }, some base, []⟩ := by
  cases answer with
  | error e => simp [generated]
  | ok reply =>
    rw [generated, bind_eq_ok_iff]
    simp [pure, Except.pure, eq_comm]

/-- A record makes a revision if it is there and its document still validates. -/
theorem restored_eq_ok_iff [KeyValueStore σ] {id : String} :
    s.restored stamp id = .ok r ↔
      ∃ snapshot d, s.snapshot id = .ok snapshot ∧
        Document.validate s.policy.validation snapshot.document = .ok d ∧
        r = ⟨d, { HistoryRecord.ofDocument stamp .restored d with summary := snapshot.summary },
          none, []⟩ := by
  rw [restored, bind_eq_ok_iff]
  refine exists_congr fun snapshot => ?_
  cases Document.validate s.policy.validation snapshot.document with
  | error issues => simp
  | ok d => simp [pure, Except.pure, eq_comm]

/-! ## What they answer to -/

theorem base_of_ingested {source : SourceTag} {raw : Json} {origin : Origin}
    (made : s.ingested stamp source raw = .ok (origin, r)) : r.base = none := by
  obtain ⟨d, -, rfl⟩ := ingested_eq_ok_iff.1 made
  rfl

theorem base_of_ingestedText {source : SourceTag} {text : String} {origin : Origin}
    (made : s.ingestedText stamp source text = .ok (origin, r)) : r.base = none := by
  obtain ⟨raw, -, made⟩ := ingestedText_eq_ok_iff.1 made
  exact base_of_ingested made

theorem base_of_edited {base : Nat} {instruction : String}
    {answer : Except ServiceError AssistReply}
    (made : s.edited base stamp instruction answer = .ok r) : r.base = some base := by
  obtain ⟨reply, d, -, -, rfl⟩ := edited_eq_ok_iff.1 made
  rfl

theorem base_of_generated {base : Nat} {answer : Except ServiceError GenerateReply}
    (made : s.generated base stamp answer = .ok r) : r.base = some base := by
  obtain ⟨reply, d, -, -, rfl⟩ := generated_eq_ok_iff.1 made
  rfl

theorem base_of_restored [KeyValueStore σ] {id : String} (made : s.restored stamp id = .ok r) :
    r.base = none := by
  obtain ⟨snapshot, d, -, -, rfl⟩ := restored_eq_ok_iff.1 made
  rfl

end Session

end Wireframe
