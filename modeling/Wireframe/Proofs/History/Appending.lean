import Wireframe.History.Log
import Wireframe.Proofs.Document.Roundtrip
import Wireframe.Proofs.History.Records
import Wireframe.Proofs.Results
import Wireframe.Proofs.Store.Lawful

/-!
# Adding to the history

A record that is added is saved with the others as one text. The text always says what was saved,
since all records keep (`HistoryRecord.Keeps`), but it is only read if it is not nested too deep :
the array, the record and the document around its root leave room for 61 levels of nodes below
the root (`History.append_keeps_readable_iff`). The validator lets 64 pass by default, and the
text of a document may have 62, so a document that was read and validated can make the history
unreadable (`History.append_tower_corrupts`).
-/

namespace Wireframe

namespace HistoryRecord

/-- The record of a document at a proper time keeps. -/
theorem keeps_ofDocument {stamp : Stamp} (time : stamp.time.Valid) (tag : SourceTag)
    (d : Document) : (ofDocument stamp tag d).Keeps :=
  ⟨time, d.isSettled_toJson, fun _ has => Document.valid_of_hasNumber has⟩

end HistoryRecord

namespace History

/-- A new record comes behind as many of the others as the limit leaves. -/
theorem next?_append {σ : Type} (h : History σ) (rs : List HistoryRecord)
    (record : HistoryRecord) :
    (Change.append record).next? h.limit rs =
      some (rs.drop (rs.length + 1 - h.limit) ++ [record]) := by
  have pos := h.limit_pos
  have inside : (rs ++ [record]).length - h.limit ≤ rs.length := by
    simp
    omega
  rw [Change.next?, List.drop_append_of_le_length inside, List.length_append, List.length_singleton]

variable {σ : Type} [KeyValueStore σ]

/-- The records that are read keep, and none of their documents is nested too deep. -/
theorem of_records {h : History σ} {rs : List HistoryRecord} (read : h.records = .ok rs) :
    ∀ r ∈ rs, r.Keeps ∧ r.document.nesting ≤ HistoryRecord.levels := by
  unfold records at read
  split at read
  · cases read
  · cases read
    simp
  · split at read
    · next decoded =>
      cases read
      exact HistoryRecord.of_decodeAll? decoded
    · cases read

/-- What a change does : the next records are made of those that it starts from, and saved if it
has an effect. -/
theorem perform_eq_ok_iff {h h' : History σ} {c : Change} {changed : Bool} :
    h.perform c = .ok (changed, h') ↔ ∃ rs, h.recordsFor c = .ok rs ∧
      (c.next? h.limit rs = none ∧ changed = false ∧ h' = h ∨
        ∃ next, c.next? h.limit rs = some next ∧ h.save next = .ok h' ∧ changed = true) := by
  rw [perform, bind_eq_ok_iff]
  refine exists_congr fun rs => and_congr_right fun _ => ?_
  cases c.next? h.limit rs with
  | none => simp [pure, Except.pure, eq_comm]
  | some next =>
    dsimp only
    rw [bind_eq_ok_iff]
    simp [pure, Except.pure, @eq_comm _ true, and_comm]

/-- What adding a record does : the new record is put behind those that are read, and all that are
kept are saved. -/
theorem append_eq_ok_iff {h h' : History σ} {record : HistoryRecord} :
    h.append record = .ok h' ↔
      ∃ rs, h.records = .ok rs ∧ h.save (rs.drop (rs.length + 1 - h.limit) ++ [record]) = .ok h' := by
  rw [append, map_snd_eq_ok_iff]
  simp [perform_eq_ok_iff, recordsFor, Change.reads, next?_append]

/-- A corrupt history refuses every change that has to read it. -/
theorem perform_of_corrupt {h : History σ} (corrupt : h.records = .error .corrupt) {c : Change}
    (reads : c.reads = true) : h.perform c = .error .corrupt := by
  simp [perform, recordsFor, reads, corrupt, bind, Except.bind]

variable [LawfulStore σ]

/-- Saved records that keep are read back together, or the history is corrupt. -/
theorem records_of_save {h h' : History σ} {rs : List HistoryRecord} (saved : h.save rs = .ok h')
    (keeps : ∀ r ∈ rs, r.Keeps) :
    h'.records =
      if ∀ r ∈ rs, r.document.nesting ≤ HistoryRecord.levels then .ok rs else .error .corrupt := by
  unfold save at saved
  split at saved
  · cases saved
  · next store store_eq =>
    cases saved
    have loaded : KeyValueStore.load store key = .ok (some (HistoryRecord.encodeAll rs)) :=
      LawfulStore.load_save store_eq
    simp only [records, loaded, HistoryRecord.decodeAll?_encodeAll keeps]
    split_ifs <;> rfl

/-- The records after one was added that keeps. -/
theorem records_of_append {h h' : History σ} {record : HistoryRecord} (keeps : record.Keeps)
    (appended : h.append record = .ok h') :
    ∃ rest, h'.records =
      if record.document.nesting ≤ HistoryRecord.levels then .ok (rest ++ [record])
      else .error .corrupt := by
  obtain ⟨rs, read, saved⟩ := append_eq_ok_iff.1 appended
  have old := of_records read
  have all : ∀ r ∈ rs.drop (rs.length + 1 - h.limit) ++ [record], r.Keeps := by
    intro r mem
    rcases List.mem_append.1 mem with mem | mem
    · exact (old r (List.mem_of_mem_drop mem)).1
    · obtain rfl := List.mem_singleton.1 mem
      exact keeps
  have only : (∀ r ∈ rs.drop (rs.length + 1 - h.limit) ++ [record],
      r.document.nesting ≤ HistoryRecord.levels) ↔
        record.document.nesting ≤ HistoryRecord.levels := by
    constructor
    · intro each
      exact each record (by simp)
    · intro new r mem
      rcases List.mem_append.1 mem with mem | mem
      · exact (old r (List.mem_of_mem_drop mem)).2
      · obtain rfl := List.mem_singleton.1 mem
        exact new
  refine ⟨rs.drop (rs.length + 1 - h.limit), ?_⟩
  rw [records_of_save saved all]
  simp only [only]

/-- Adding the record of a document leaves the history readable, the new record first, exactly if
no node of the document is more than 61 levels below its root. With a deeper one the history
cannot be read any more, nor changed by anything that reads it. -/
theorem append_keeps_readable_iff {h h' : History σ} {stamp : Stamp} {tag : SourceTag}
    {d : Document} (time : stamp.time.Valid)
    (appended : h.append (.ofDocument stamp tag d) = .ok h') :
    ((∃ rest, h'.list = .ok (.ofDocument stamp tag d :: rest)) ↔ d.root.height ≤ 61) ∧
      (61 < d.root.height → h'.list = .error .corrupt ∧
        ∀ c : Change, c.reads = true → h'.perform c = .error .corrupt) := by
  obtain ⟨rest, records_eq⟩ :=
    records_of_append (HistoryRecord.keeps_ofDocument time tag d) appended
  have nested : (HistoryRecord.ofDocument stamp tag d).document.nesting ≤ HistoryRecord.levels ↔
      d.root.height ≤ 61 :=
    d.nesting_toJson_le_iff 61
  simp only [nested] at records_eq
  constructor
  · constructor
    · rintro ⟨later, listed⟩
      by_contra deep
      rw [if_neg deep] at records_eq
      rw [list, records_eq] at listed
      cases listed
    · intro flat
      rw [if_pos flat] at records_eq
      exact ⟨rest.reverse, by simp [list, records_eq, Except.map]⟩
  · intro deep
    rw [if_neg (by omega)] at records_eq
    exact ⟨by rw [list, records_eq]; rfl, fun c reads => perform_of_corrupt records_eq reads⟩

/-- The sample document is the first of the list once it was added. -/
theorem append_sample_keeps_readable :
    let record := HistoryRecord.ofDocument ⟨"sample", ⟨0, 0⟩⟩ .sample .sample
    ∃ h' : History MemoryStore, (ofStore .empty defaultLimit).append record = .ok h' ∧
      ∃ rest, h'.list = .ok (record :: rest) := by
  intro record
  have time : (⟨0, 0⟩ : Timestamp).Valid := ⟨by decide, .inl (by decide)⟩
  obtain ⟨h', appended⟩ : ∃ h' : History MemoryStore,
      (ofStore .empty defaultLimit).append record = .ok h' :=
    ⟨_, rfl⟩
  exact ⟨h', appended, (append_keeps_readable_iff time appended).1.2 (by decide)⟩

end History

/-! ## A document too deep -/

/-- A text in that many forms. -/
def Node.tower : Nat → Node
  | 0 => .leaf (.text ⟨"text", "", .p⟩)
  | n + 1 => .group (.form ⟨"form"⟩) [tower n]

namespace Node

theorem height_tower : ∀ n, (tower n).height = n
  | 0 => by simp [tower, height]
  | n + 1 => by simp [tower, height, heightAll, height_tower n]

/-- A tower is stable where its levels are within the bound. -/
theorem stable_tower {bound : Nat} : ∀ {n depth : Nat}, depth + n ≤ bound →
    (tower n).Stable bound depth
  | 0, depth, within => .leaf within trivial
  | n + 1, depth, within => by
    refine .group (by omega) fun child mem => ?_
    obtain rfl := List.mem_singleton.1 mem
    exact stable_tower (by omega)

end Node

namespace History

/-- The default bound of the validator lets a tower of 62 forms pass, and its text can be read, but
the history in which it is recorded cannot. -/
theorem append_tower_corrupts :
    let d : Document := .ofRoot (.tower 62)
    let h : History MemoryStore := .ofStore .empty defaultLimit
    Json.parse? d.toJson.compact = some d.toJson ∧ Document.validate .structural d.toJson = .ok d ∧
      h.list = .ok [] ∧
      ∃ h', h.append (.ofDocument ⟨"tower", ⟨0, 0⟩⟩ .upload d) = .ok h' ∧
        h'.list = .error .corrupt := by
  intro d h
  have height_eq : d.root.height = 62 := Node.height_tower 62
  have stable : d.Stable defaultMaxDepth := ⟨rfl, Node.stable_tower (by decide)⟩
  have parsed : Json.parse? d.toJson.compact = some d.toJson := by
    have within : d.toJson.nesting ≤ Json.nestingBound := (d.nesting_toJson_le_iff 62).2 height_eq.le
    rw [d.isSettled_toJson.parse?_compact fun n has => (Document.valid_of_hasNumber has).readsBack,
      if_pos within]
  have time : (⟨0, 0⟩ : Timestamp).Valid := ⟨by decide, .inl (by decide)⟩
  obtain ⟨h', appended⟩ : ∃ h', h.append (.ofDocument ⟨"tower", ⟨0, 0⟩⟩ .upload d) = .ok h' :=
    ⟨_, rfl⟩
  refine ⟨parsed, stable.validate_toJson _, rfl, h', appended, ?_⟩
  obtain ⟨rest, records_eq⟩ :=
    records_of_append (HistoryRecord.keeps_ofDocument time .upload d) appended
  have deep : ¬ (HistoryRecord.ofDocument ⟨"tower", ⟨0, 0⟩⟩ .upload d).document.nesting ≤
      HistoryRecord.levels := by
    intro nested
    have := (d.nesting_toJson_le_iff 61).1 nested
    omega
  rw [list, records_eq, if_neg deep]
  rfl

end History

end Wireframe
