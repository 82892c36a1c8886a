import Wireframe.History.Record
import Wireframe.Proofs.Document.Outcome
import Wireframe.Proofs.Document.Writing
import Wireframe.Proofs.Json.Members
import Wireframe.Proofs.Json.Numerals
import Wireframe.Proofs.Json.Reading
import Wireframe.Proofs.Time.Timestamp

/-!
# Written records

A record with a proper time and a document without repeated names is read back from its written
form (`HistoryRecord.Keeps.decode?_toJson`), and only such records are read. Many of them stored
together are read back if none of their documents is nested deeper than the reader's bound allows,
two levels being taken by the record and the list; else nothing is
(`HistoryRecord.decodeAll?_encodeAll`).
-/

namespace Wireframe

instance : LawfulChoices SourceTag := ⟨fun value => by cases value <;> decide⟩

namespace HistoryRecord

/-- Records that keep when they are stored, if their nesting lets them. -/
structure Keeps (r : HistoryRecord) : Prop where
  time : r.createdAt.Valid
  settled : r.document.IsSettled
  valid : ∀ n, r.document.HasNumber n → n.Valid

/-- The members of a record as it is written. -/
def members (r : HistoryRecord) : Members :=
  [("id", .string r.id), ("createdAt", .string r.createdAt.text),
    ("sourceTag", .ofChoice r.sourceTag), ("document", r.document)] ++
  optionalMember "summary" .string r.summary ++
  optionalMember "generatedCode" .string r.generatedCode ++
  optionalMember "qaText" .string r.qaText

theorem toJson_eq (r : HistoryRecord) : r.toJson = .object r.members :=
  rfl

/-- No two members of a record have one name. -/
theorem nodup_names_members (r : HistoryRecord) : r.members.names.Nodup := by
  obtain ⟨id, createdAt, sourceTag, document, summary, generatedCode, qaText⟩ := r
  cases summary <;> cases generatedCode <;> cases qaText <;>
    simp [members, Members.names, optionalMember]

theorem repeatsField_of_nodup {members : Members} (distinct : members.names.Nodup) :
    repeatsField members = false := by
  have once : ∀ name : String, members.countP (fun m => m.1 = name) ≤ 1 := by
    intro name
    have counted := List.nodup_iff_count.1 distinct name
    rwa [Members.names, List.count_eq_countP, List.countP_map] at counted
  simp [repeatsField, once]

theorem get?_optionalMember (name other : String) (value : Option String) :
    (optionalMember name .string value).get? other =
      if name = other then value.map .string else none := by
  cases value with
  | none => simp [optionalMember, Members.get?]
  | some text =>
    by_cases same : name = other
    · simp [optionalMember, same, Members.get?_cons_self]
    · simp [optionalMember, same, Members.get?_cons_of_ne same, Members.get?_nil]

/-- An optional field is read as it was written. -/
theorem optionalString?_of_get? {members : Members} {name : String} {value : Option String}
    (h : members.get? name = value.map .string) : members.optionalString? name = some value := by
  cases value with
  | none => simp [Members.optionalString?, Members.present?, h]
  | some text => simp [Members.optionalString?, Members.present?, h]

/-- A record that keeps is read back from its written form. -/
theorem Keeps.decode?_toJson {r : HistoryRecord} (keeps : r.Keeps) : decode? r.toJson = some r := by
  have time : Timestamp.parse? r.createdAt.text = some r.createdAt := Timestamp.parse?_text keeps.time
  have members_eq : members? r.toJson = some r.members :=
    if_neg (Bool.eq_false_iff.1 (repeatsField_of_nodup r.nodup_names_members))
  have id : r.members.get? "id" = some (.string r.id) := rfl
  have createdAt : r.members.get? "createdAt" = some (.string r.createdAt.text) := rfl
  have sourceTag : r.members.get? "sourceTag" = some (.ofChoice r.sourceTag) := rfl
  have document : r.members.get? "document" = some r.document := rfl
  have summary : r.members.optionalString? "summary" = some r.summary :=
    optionalString?_of_get? (by simp [members, Members.get?_append, get?_optionalMember,
      Members.get?_cons_of_ne])
  have generatedCode : r.members.optionalString? "generatedCode" = some r.generatedCode :=
    optionalString?_of_get? (by simp [members, Members.get?_append, get?_optionalMember,
      Members.get?_cons_of_ne])
  have qaText : r.members.optionalString? "qaText" = some r.qaText :=
    optionalString?_of_get? (by simp [members, Members.get?_append, get?_optionalMember,
      Members.get?_cons_of_ne])
  simp [decode?, members_eq, Members.string?, id, createdAt, sourceTag, document, summary,
    generatedCode, qaText, time, Json.ofChoice, Json.choice?, keeps.settled.settled_eq]

/-! ## What is read as a record -/

/-- The members of what is read as a record are parts of it. -/
theorem of_members? {raw : Json} {members : Members} (h : members? raw = some members)
    {m : String × Json} (mem : m ∈ members) :
    m.2.nesting < raw.nesting ∧ ∀ n, m.2.HasNumber n → raw.HasNumber n := by
  unfold members? at h
  split at h
  · split at h
    · cases h
    · cases h
      refine ⟨?_, fun n has => Json.hasNumber_object.2 ⟨m, mem, has⟩⟩
      rw [Json.nesting]
      exact Nat.lt_succ_of_le (Json.nesting_le_of_mem_members mem)
  · next items =>
    split at h
    · cases h
      have item_mem : m.2 ∈ items := (List.of_mem_zip mem).2
      refine ⟨?_, fun n has => Json.hasNumber_array.2 ⟨m.2, item_mem, has⟩⟩
      rw [Json.nesting]
      exact Nat.lt_succ_of_le (Json.nesting_le_of_mem_items item_mem)
    · cases h
  · cases h

/-- A record that is read keeps, and its document is a part of what it is read from, settled. -/
theorem of_decode? {raw : Json} {r : HistoryRecord} (h : decode? raw = some r)
    (valid : ∀ n, raw.HasNumber n → n.Valid) : r.Keeps ∧ r.document.nesting < raw.nesting := by
  unfold decode? at h
  obtain ⟨members, members_eq, h⟩ := Option.bind_eq_some_iff.1 h
  obtain ⟨id, -, h⟩ := Option.bind_eq_some_iff.1 h
  obtain ⟨createdAt, time, h⟩ := Option.bind_eq_some_iff.1 h
  obtain ⟨sourceTag, -, h⟩ := Option.bind_eq_some_iff.1 h
  obtain ⟨document, document_eq, h⟩ := Option.bind_eq_some_iff.1 h
  obtain ⟨summary, -, h⟩ := Option.bind_eq_some_iff.1 h
  obtain ⟨generatedCode, -, h⟩ := Option.bind_eq_some_iff.1 h
  obtain ⟨qaText, -, h⟩ := Option.bind_eq_some_iff.1 h
  obtain rfl := Option.some.inj h
  obtain ⟨text, -, time⟩ := Option.bind_eq_some_iff.1 time
  obtain ⟨deeper, numbers⟩ := of_members? members_eq (Members.mem_of_get? document_eq)
  refine ⟨⟨Timestamp.valid_of_parse? time, document.isSettled_settled, fun n has => ?_⟩, ?_⟩
  · exact valid n (numbers n (Json.hasNumber_of_settled has))
  · exact Nat.lt_of_le_of_lt document.nesting_settled_le deeper

/-! ## Lists of records -/

/-- The levels of JSON that the document of a stored record may have. -/
def levels : Nat :=
  Json.nestingBound - 2

/-- A member of a record is plain, or it is the document. -/
theorem isPlain_of_mem {r : HistoryRecord} {m : String × Json} (mem : m ∈ r.members) :
    m.2.IsPlain ∨ m.2 = r.document := by
  have optional : ∀ {name : String} {value : Option String},
      m ∈ optionalMember name .string value → m.2.IsPlain := by
    intro name value mem
    obtain ⟨text, rfl⟩ := eq_of_mem_optionalMember mem
    trivial
  simp only [members, List.mem_append] at mem
  rcases mem with ((mem | mem) | mem) | mem
  · simp only [List.mem_cons, List.not_mem_nil, or_false] at mem
    rcases mem with rfl | rfl | rfl | rfl
    · exact .inl trivial
    · exact .inl trivial
    · exact .inl trivial
    · exact .inr rfl
  · exact .inl (optional mem)
  · exact .inl (optional mem)
  · exact .inl (optional mem)

/-- A written record is one level more than its document. -/
theorem nesting_toJson (r : HistoryRecord) : r.toJson.nesting = r.document.nesting + 1 := by
  have document_mem : ("document", r.document) ∈ r.members := by simp [members]
  refine Json.nesting_object_of_mem document_mem fun m mem => ?_
  rcases isPlain_of_mem mem with plain | eq
  · simp [plain.nesting_eq]
  · rw [eq]

/-- The numbers of a record that keeps are valid. -/
theorem Keeps.valid_of_hasNumber {r : HistoryRecord} (keeps : r.Keeps) {n : Number}
    (has : r.toJson.HasNumber n) : n.Valid := by
  obtain ⟨m, mem, has⟩ := Json.hasNumber_object.1 has
  rcases isPlain_of_mem mem with plain | eq
  · exact plain.valid has
  · exact keeps.valid n (eq ▸ has)

theorem mapM_decode?_toJson : ∀ {rs : List HistoryRecord}, (∀ r ∈ rs, r.Keeps) →
    (rs.map toJson).mapM decode? = some rs
  | [], _ => rfl
  | r :: rs, keeps => by
    have others := mapM_decode?_toJson fun s mem => keeps s (List.mem_cons_of_mem _ mem)
    rw [List.map_cons, List.mapM_cons, (keeps r (by simp)).decode?_toJson, others]
    rfl

/-- Records that keep are read back together, or none of them is. -/
theorem decodeAll?_encodeAll {rs : List HistoryRecord} (keeps : ∀ r ∈ rs, r.Keeps) :
    decodeAll? (encodeAll rs) =
      if ∀ r ∈ rs, r.document.nesting ≤ levels then some rs else none := by
  have back : ∀ n, (Json.array (rs.map toJson)).HasNumber n → n.ReadsBack := by
    intro n has
    obtain ⟨item, mem, has⟩ := Json.hasNumber_array.1 has
    obtain ⟨r, r_mem, rfl⟩ := List.mem_map.1 mem
    exact ((keeps r r_mem).valid_of_hasNumber has).readsBack
  have nested : (Json.array (rs.map toJson)).nesting ≤ Json.nestingBound ↔
      ∀ r ∈ rs, r.document.nesting ≤ levels := by
    rw [show Json.nestingBound = 126 + 1 from rfl, Json.nesting_array_le_iff]
    simp only [List.forall_mem_map, nesting_toJson, levels, Json.nestingBound]
    exact forall₂_congr fun r _ => by omega
  rw [decodeAll?, encodeAll, Json.read?_compact back]
  simp only [nested]
  split_ifs
  · exact mapM_decode?_toJson keeps
  · rfl

/-- What is read from items one by one is read from one of them. -/
theorem exists_of_mapM_decode? : ∀ {items : List Json} {rs : List HistoryRecord},
    items.mapM decode? = some rs → ∀ r ∈ rs, ∃ item ∈ items, decode? item = some r
  | [], rs, h, r, mem => by
    obtain rfl : [] = rs := by simpa using h
    simp at mem
  | item :: items, rs, h, r, mem => by
    rw [List.mapM_cons] at h
    obtain ⟨first, first_eq, h⟩ := Option.bind_eq_some_iff.1 h
    obtain ⟨others, others_eq, h⟩ := Option.bind_eq_some_iff.1 h
    obtain rfl : first :: others = rs := by simpa using h
    rcases List.mem_cons.1 mem with rfl | mem
    · exact ⟨item, by simp, first_eq⟩
    · obtain ⟨source, source_mem, source_eq⟩ := exists_of_mapM_decode? others_eq r mem
      exact ⟨source, List.mem_cons_of_mem _ source_mem, source_eq⟩

/-- The records of a stored text keep, and none of their documents is nested too deep. -/
theorem of_decodeAll? {text : String} {rs : List HistoryRecord} (h : decodeAll? text = some rs) :
    ∀ r ∈ rs, r.Keeps ∧ r.document.nesting ≤ levels := by
  unfold decodeAll? at h
  split at h
  · next items read =>
    obtain ⟨nested, valid⟩ := Json.of_read? read
    rw [show Json.nestingBound = 126 + 1 from rfl, Json.nesting_array_le_iff] at nested
    intro r mem
    obtain ⟨item, item_mem, item_eq⟩ := exists_of_mapM_decode? h r mem
    obtain ⟨keeps, deeper⟩ :=
      of_decode? item_eq fun n has => valid n (Json.hasNumber_array.2 ⟨item, item_mem, has⟩)
    have := nested item item_mem
    exact ⟨keeps, by simp only [levels, Json.nestingBound]; omega⟩
  · cases h

end HistoryRecord

end Wireframe
