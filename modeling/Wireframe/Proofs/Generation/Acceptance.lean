import Wireframe.Proofs.Generation.Body
import Wireframe.Proofs.Json.Members
import Wireframe.Proofs.Json.Structure
import Wireframe.Proofs.Results

/-!
# Accepted replies

A reply is accepted from an object that is no refusal and has its document under one of the two
names, or from an array that lists the document and then texts (`Reply.accepted_values`). Nothing
looks for a refusal in an array : whatever its first item is becomes the document of a reply, and
be it a refusal itself (`Reply.listed_refusal_is_accepted`).
-/

namespace Wireframe

/-- Whether a name is one of the field's. -/
def ReplyField.isCalled (field : ReplyField) (name : String) : Bool :=
  field.name = name || field.aliases.contains name

namespace ReplyForm

/-- Values that a field may have : any for the document, null or a string for a text. -/
def Fits (field : String) (value : Json) : Prop :=
  field = documentField.name ∨ value = .null ∨ ∃ text, value = .string text

/-- The members that are fields, under their first names. -/
def known (form : ReplyForm) (members : Members) : Members :=
  members.filterMap fun m => (form.fieldOf? m.1).map fun field => (field, m.2)

variable {form : ReplyForm}

theorem known_cons_of_none {name : String} (unknown : form.fieldOf? name = none) (value : Json)
    (rest : Members) : form.known ((name, value) :: rest) = form.known rest := by
  simp [known, unknown]

theorem known_cons_of_some {name field : String} (field_eq : form.fieldOf? name = some field)
    (value : Json) (rest : Members) :
    form.known ((name, value) :: rest) = (field, value) :: form.known rest := by
  simp [known, field_eq]

/-- A field is taken once, with a value that fits. -/
theorem take_eq_ok_iff {found result : Members} {field : String} {value : Json} :
    take found field value = .ok result ↔
      field ∉ found.names ∧ Fits field value ∧ found ++ [(field, value)] = result := by
  unfold take
  rw [← Members.get?_eq_none_iff]
  cases found.get? field with
  | some other => simp
  | none =>
    by_cases document : field = documentField.name
    · simp [document, Fits]
    · cases value <;> simp [document, Fits]

/-- Fields are taken one after the other, none of them twice and each with a value that fits. -/
theorem takeMembers_eq_ok_iff {members : Members} : ∀ {found result : Members},
    found.names.Nodup → (form.takeMembers found members = .ok result ↔
      found ++ form.known members = result ∧ result.names.Nodup ∧
        ∀ m ∈ form.known members, Fits m.1 m.2) := by
  induction members with
  | nil =>
    intro found result distinct
    simp only [takeMembers, known, List.filterMap_nil, List.append_nil, Except.ok.injEq]
    constructor
    · rintro rfl
      exact ⟨rfl, distinct, by simp⟩
    · exact And.left
  | cons m rest ih =>
    obtain ⟨name, value⟩ := m
    intro found result distinct
    rw [takeMembers]
    cases field_eq : form.fieldOf? name with
    | none =>
      rw [known_cons_of_none field_eq]
      exact ih distinct
    | some field =>
      rw [known_cons_of_some field_eq]
      dsimp only
      constructor
      · intro taken
        split at taken
        · cases taken
        · next found' first =>
          obtain ⟨fresh, fits, rfl⟩ := take_eq_ok_iff.1 first
          obtain ⟨rfl, distinct', each⟩ :=
            (ih (Members.nodup_names_concat.2 ⟨distinct, fresh⟩)).1 taken
          refine ⟨by simp, distinct', ?_⟩
          rintro m (_ | ⟨_, mem⟩)
          · exact fits
          · exact each m mem
      · rintro ⟨rfl, distinct', each⟩
        have concat : found ++ (field, value) :: form.known rest =
            (found ++ [(field, value)]) ++ form.known rest := by simp
        rw [concat] at distinct' ⊢
        have fresh := (Members.nodup_names_concat.1
          (distinct'.sublist ((List.sublist_append_left _ _).map _))).2
        rw [take_eq_ok_iff.2 ⟨fresh, each _ (List.mem_cons_self ..), rfl⟩]
        exact (ih (Members.nodup_names_concat.2 ⟨distinct, fresh⟩)).2
          ⟨rfl, distinct', fun m mem => each m (List.mem_cons_of_mem _ mem)⟩

/-- The fields among members are found if none is there twice and each has a value that fits. -/
theorem takeMembers_nil_eq_ok_iff {members found : Members} :
    form.takeMembers [] members = .ok found ↔
      form.known members = found ∧ found.names.Nodup ∧ ∀ m ∈ found, Fits m.1 m.2 := by
  have nothing : (Members.names []).Nodup := List.nodup_nil
  rw [takeMembers_eq_ok_iff nothing, List.nil_append]
  constructor
  · rintro ⟨rfl, distinct, each⟩
    exact ⟨rfl, distinct, each⟩
  · rintro ⟨rfl, distinct, each⟩
    exact ⟨rfl, distinct, each⟩

/-! ## Fields of an object -/

/-- Forms whose fields are told apart by their names. -/
structure Lawful (form : ReplyForm) : Prop where
  distinct : (form.fields.map ReplyField.name).Nodup
  own : ∀ name ∈ form.fields.map ReplyField.name, form.fieldOf? name = some name

/-- The document goes by two names. -/
theorem fieldOf?_eq_document_iff (lawful : form.Lawful) {name : String} :
    form.fieldOf? name = some documentField.name ↔ name = "document" ∨ name = "dsl" := by
  have named : documentField.isCalled name = true ↔ name = "document" ∨ name = "dsl" := by
    simp [ReplyField.isCalled, documentField, @eq_comm _ "document"]
  have searched : form.fieldOf? name =
      (form.fields.find? fun field => field.isCalled name).map ReplyField.name :=
    rfl
  constructor
  · intro document
    obtain ⟨field, found, field_eq⟩ := Option.map_eq_some_iff.1 (searched ▸ document)
    rcases List.mem_cons.1 (List.mem_of_find?_eq_some found) with rfl | mem
    · exact named.1 (List.find?_some (p := (ReplyField.isCalled · name)) found)
    · have apart := (List.nodup_cons.1 lawful.distinct).1
      exact absurd (List.mem_map.2 ⟨field, mem, field_eq⟩) apart
  · intro either
    rw [searched, fields,
      List.find?_cons_of_pos (p := (ReplyField.isCalled · name)) (named.2 either)]
    rfl

/-- Where no field is given twice, the document has one of its two names and not the other. -/
theorem get?_document (lawful : form.Lawful) {document : Json} :
    ∀ {members : Members}, (form.known members).names.Nodup →
      (form.known members).get? documentField.name = some document →
      members.get? "document" = some document ∧ members.get? "dsl" = none ∨
        members.get? "document" = none ∧ members.get? "dsl" = some document
  | [], _, found => by cases found
  | (name, value) :: rest, distinct, found => by
    by_cases either : form.fieldOf? name = some documentField.name
    · -- the document stands here, so neither of its names comes again
      rw [known_cons_of_some either] at distinct found
      have apart : documentField.name ∉ (form.known rest).names := (List.nodup_cons.1 distinct).1
      have absent : ∀ other, form.fieldOf? other = some documentField.name →
          Members.get? rest other = none := by
        intro other other_eq
        rw [Members.get?_eq_none_iff]
        intro again
        obtain ⟨m, mem, rfl⟩ := List.mem_map.1 again
        have known_mem : (documentField.name, m.2) ∈ form.known rest :=
          List.mem_filterMap.2 ⟨m, mem, by rw [other_eq]; rfl⟩
        exact apart (List.mem_map.2 ⟨_, known_mem, rfl⟩)
      rw [Members.get?_cons_self] at found
      cases found
      have noDocument := absent "document" ((fieldOf?_eq_document_iff lawful).2 (.inl rfl))
      have noDsl := absent "dsl" ((fieldOf?_eq_document_iff lawful).2 (.inr rfl))
      rcases (fieldOf?_eq_document_iff lawful).1 either with rfl | rfl
      · exact .inl ⟨Members.get?_cons_self .., by rwa [Members.get?_cons_of_ne (by decide)]⟩
      · exact .inr ⟨by rwa [Members.get?_cons_of_ne (by decide)], Members.get?_cons_self ..⟩
    · have differs := not_or.1 (fun named => either ((fieldOf?_eq_document_iff lawful).2 named))
      rw [Members.get?_cons_of_ne differs.1, Members.get?_cons_of_ne differs.2]
      cases field_eq : form.fieldOf? name with
      | none =>
        rw [known_cons_of_none field_eq] at distinct found
        exact get?_document lawful distinct found
      | some field =>
        have other : field ≠ documentField.name := fun eq => either (field_eq.trans (by rw [eq]))
        rw [known_cons_of_some field_eq] at distinct found
        rw [Members.get?_cons_of_ne other] at found
        exact get?_document lawful (List.nodup_cons.1 distinct).2 found

/-- The fields of an object : none of them twice, each with a value that fits, the document among
them. -/
theorem fieldsOf_object_eq_ok_iff {members found : Members} :
    form.fieldsOf (.object members) = .ok found ↔
      form.known members = found ∧ found.names.Nodup ∧ (∀ m ∈ found, Fits m.1 m.2) ∧
        ∃ document, found.get? documentField.name = some document := by
  rw [fieldsOf, bind_eq_ok_iff]
  simp only [takeMembers_nil_eq_ok_iff]
  constructor
  · rintro ⟨found', ⟨rfl, distinct, fits⟩, rest⟩
    split at rest
    · next there =>
      cases rest
      exact ⟨rfl, distinct, fits, Option.isSome_iff_exists.1 there⟩
    · cases rest
  · rintro ⟨rfl, distinct, fits, there⟩
    refine ⟨_, ⟨rfl, distinct, fits⟩, ?_⟩
    rw [if_pos (Option.isSome_iff_exists.2 there)]
    rfl

/-! ## Fields of an array -/

theorem names_zip_sublist (names : List String) (items : List Json) :
    (Members.names (names.zip items)).Sublist names := by
  rw [Members.names, List.zip_eq_zip_take_min, List.map_fst_zip (by simp)]
  exact List.take_sublist ..

/-- Members under the names of fields are those fields. -/
theorem known_eq_self (lawful : form.Lawful) {members : Members}
    (named : ∀ name ∈ members.names, name ∈ form.fields.map ReplyField.name) :
    form.known members = members := by
  have each : ∀ m ∈ members, (form.fieldOf? m.1).map (fun field => (field, m.2)) = some m := by
    intro m mem
    rw [lawful.own _ (named _ (List.mem_map_of_mem mem))]
    rfl
  rw [known, List.filterMap_congr each, List.filterMap_some]

/-- Items fit as fields if those behind the document are texts. -/
theorem fits_items_iff (lawful : form.Lawful) {document : Json} {texts : List Json}
    (short : texts.length ≤ form.texts.length) :
    (∀ m ∈ (form.fields.map ReplyField.name).zip (document :: texts), Fits m.1 m.2) ↔
      ∀ text ∈ texts, text = .null ∨ ∃ s, text = .string s := by
  have first : Fits documentField.name document := .inl rfl
  have others : ∀ m ∈ (form.texts.map ReplyField.name).zip texts,
      Fits m.1 m.2 ↔ m.2 = .null ∨ ∃ s, m.2 = .string s := by
    intro m mem
    have apart := (List.nodup_cons.1 lawful.distinct).1
    have name_mem := (names_zip_sublist _ _).subset (List.mem_map_of_mem mem)
    exact or_iff_right fun same => apart (same ▸ name_mem)
  have items : ((form.texts.map ReplyField.name).zip texts).map Prod.snd = texts :=
    List.map_snd_zip (by simpa using short)
  rw [fields, List.map_cons, List.zip_cons_cons, List.forall_mem_cons]
  constructor
  · rintro ⟨-, each⟩ text text_mem
    obtain ⟨m, mem, rfl⟩ := List.mem_map.1 (items.symm ▸ text_mem)
    exact (others m mem).1 (each m mem)
  · intro each
    refine ⟨first, fun m mem => (others m mem).2 (each m.2 ?_)⟩
    exact items ▸ List.mem_map_of_mem mem

/-- The fields of an array are its items under the names of the fields in their order : the first
is the document, the others are texts. -/
theorem fieldsOf_array_eq_ok_iff (lawful : form.Lawful) {items : List Json} {found : Members} :
    form.fieldsOf (.array items) = .ok found ↔
      ∃ document texts, items = document :: texts ∧ texts.length ≤ form.texts.length ∧
        (∀ text ∈ texts, text = .null ∨ ∃ s, text = .string s) ∧
        (form.fields.map ReplyField.name).zip items = found := by
  cases items with
  | nil => simp [fieldsOf]
  | cons document texts =>
    have inside := names_zip_sublist (form.fields.map ReplyField.name) (document :: texts)
    have alike := known_eq_self lawful fun name mem => inside.subset mem
    have short_iff : (document :: texts).length ≤ form.fields.length ↔
        texts.length ≤ form.texts.length := by
      simp [fields]
    rw [fieldsOf, bind_eq_ok_iff]
    · simp only [takeMembers_nil_eq_ok_iff, alike]
      constructor
      · rintro ⟨found', ⟨rfl, -, fits⟩, rest⟩
        split at rest
        · next long =>
          cases rest
          have short := short_iff.1 long
          exact ⟨document, texts, rfl, short, (fits_items_iff lawful short).1 fits, rfl⟩
        · cases rest
      · rintro ⟨document', texts', items_eq, short, each, rfl⟩
        cases items_eq
        refine ⟨_, ⟨rfl, lawful.distinct.sublist inside, (fits_items_iff lawful short).2 each⟩, ?_⟩
        rw [if_pos (short_iff.2 short)]
        rfl
    · rintro ⟨⟩

end ReplyForm

namespace Reply

/-! ## What is accepted -/

/-- Objects that are no refusal and have a document under one of its names. -/
def NamesDocument (value document : Json) : Prop :=
  ∃ members : Members, value = .object members ∧
    (members.get? "error" = none ∨ members.get? "error" = some .null) ∧
    (members.get? "document" = some document ∧ members.get? "dsl" = none ∨
      members.get? "document" = none ∧ members.get? "dsl" = some document)

/-- Arrays of a document and of texts behind it, no more than a form has. -/
def ListsDocument (form : ReplyForm) (value document : Json) : Prop :=
  ∃ texts, value = .array (document :: texts) ∧ texts.length ≤ form.texts.length ∧
    ∀ text ∈ texts, text = .null ∨ ∃ s, text = .string s

/-- Kinds of reply that give back the document that they were made of. -/
class LawfulReply (α : Type) [Reply α] where
  document : α → Json
  document_ofFields (d : Json) (text : String → Option String) :
    document (ofFields d text : α) = d
  lawful : (form α).Lawful

instance : LawfulReply AssistReply where
  document := AssistReply.document
  document_ofFields _ _ := rfl
  lawful := ⟨by decide, by decide⟩

instance : LawfulReply GenerateReply where
  document := GenerateReply.document
  document_ofFields _ _ := rfl
  lawful := ⟨by decide, by decide⟩

open LawfulReply

/-- An object is a refusal unless its `error` is absent or null. -/
theorem refusal?_object_eq_none_iff {members : Members} :
    refusal? (.object members) = none ↔
      members.get? "error" = none ∨ members.get? "error" = some .null := by
  rw [refusal?, Json.get?]
  cases members.get? "error" with
  | none => simp
  | some e => cases e <;> simp [Json.type]

variable {α : Type} [Reply α]

/-- A body is accepted with the reply that the value it holds is, if that is no refusal. -/
theorem decode_eq_ok_iff {body : String} {reply : α} :
    decode body = .ok reply ↔
      ∃ value, Holds body value ∧ refusal? value = none ∧ ofJson value = .ok reply := by
  simp only [← value?_eq_ok_iff]
  unfold decode
  cases value? body with
  | error fault => simp
  | ok value =>
    cases refusal_eq : refusal? value with
    | some e => simp [refusal_eq]
    | none =>
      cases reply_eq : (ofJson value : Except ReplyFault α) with
      | error fault => simp [reply_eq, refusal_eq]
      | ok other => simp [reply_eq, refusal_eq]

/-- A reply is made of the fields of a value. -/
theorem ofJson_eq_ok_iff {value : Json} {reply : α} :
    ofJson value = .ok reply ↔ ∃ found, (form α).fieldsOf value = .ok found ∧
      ofFields ((found.get? ReplyForm.documentField.name).getD .null)
        (fun name => (found.get? name).bind Json.asString?) = reply := by
  rw [ofJson, bind_eq_ok_iff]
  simp [pure, Except.pure]

variable [LawfulReply α]

/-- A body is accepted from an object only that is no refusal and names its document, which is then
the document of the reply, or from an array that lists a document. Every such array is accepted,
whatever the document in it is. -/
theorem accepted_values (body : String) :
    (∀ reply : α, decode body = .ok reply → ∃ value, Holds body value ∧
      (NamesDocument value (document reply) ∨ ListsDocument (form α) value (document reply))) ∧
    ∀ value d, Holds body value → ListsDocument (form α) value d →
      ∃ reply : α, decode body = .ok reply ∧ document reply = d := by
  have lawful : (form α).Lawful := LawfulReply.lawful
  constructor
  · intro reply accepted
    obtain ⟨value, holds, noRefusal, read⟩ := decode_eq_ok_iff.1 accepted
    obtain ⟨found, fields_eq, rfl⟩ := ofJson_eq_ok_iff.1 read
    refine ⟨value, holds, ?_⟩
    rw [document_ofFields]
    cases value with
    | object members =>
      obtain ⟨rfl, distinct, -, d, d_eq⟩ := ReplyForm.fieldsOf_object_eq_ok_iff.1 fields_eq
      rw [d_eq, Option.getD_some]
      exact .inl ⟨members, rfl, refusal?_object_eq_none_iff.1 noRefusal,
        ReplyForm.get?_document lawful distinct d_eq⟩
    | array items =>
      obtain ⟨d, texts, rfl, short, each, rfl⟩ :=
        (ReplyForm.fieldsOf_array_eq_ok_iff lawful).1 fields_eq
      exact .inr ⟨texts, rfl, short, each⟩
    | _ => cases fields_eq
  · rintro _ d holds ⟨texts, rfl, short, each⟩
    have fields_eq :=
      (ReplyForm.fieldsOf_array_eq_ok_iff lawful).2 ⟨d, texts, rfl, short, each, rfl⟩
    have read := ofJson_eq_ok_iff.2 ⟨_, fields_eq, rfl⟩
    exact ⟨_, decode_eq_ok_iff.2 ⟨_, holds, rfl, read⟩, document_ofFields ..⟩

/-- A reply behind a greeting names its document, and one without names lists it. -/
theorem replies_named_and_listed :
    (∃ reply : AssistReply, decode "OK \x7b\"error\":null,\"dsl\":true\x7d" = .ok reply ∧
      ∃ value, Holds "OK \x7b\"error\":null,\"dsl\":true\x7d" value ∧
        (NamesDocument value reply.document ∨
          ListsDocument (form AssistReply) value reply.document)) ∧
    ∃ value, Holds "[true]" value ∧ ListsDocument (form GenerateReply) value (.bool true) ∧
      ∃ reply : GenerateReply, decode "[true]" = .ok reply ∧ reply.document = .bool true := by
  have named : Json.parse? "\x7b\"error\":null,\"dsl\":true\x7d" =
      some (.object [("error", .null), ("dsl", .bool true)]) :=
    Json.parse?_of_feed? rfl (by simp [Json.settled, Json.settledMembers, Members.put])
  have listed : Json.parse? "[true]" = some (.array [.bool true]) :=
    Json.parse?_of_feed? rfl (by simp [Json.settled, Json.settledItems])
  have prose : Json.parse? "OK \x7b\"error\":null,\"dsl\":true\x7d" = none := by
    rw [Json.parse?, Json.read?]
    rfl
  have body_eq : "OK \x7b\"error\":null,\"dsl\":true\x7d".toList =
      ['O', 'K', ' '] ++ ("\x7b\"error\":null,\"dsl\":true\x7d".toList ++ []) :=
    rfl
  have holds : Holds "OK \x7b\"error\":null,\"dsl\":true\x7d"
      (.object [("error", .null), ("dsl", .bool true)]) :=
    .span prose body_eq ⟨rfl, by decide⟩ (by decide) (by decide) (by simpa using named)
  have accepted : decode "OK \x7b\"error\":null,\"dsl\":true\x7d" =
      .ok (⟨.bool true, none⟩ : AssistReply) :=
    decode_eq_ok_iff.2 ⟨_, holds, rfl, rfl⟩
  have items : ListsDocument (form GenerateReply) (.array [.bool true]) (.bool true) :=
    ⟨[], rfl, by decide, by simp⟩
  exact ⟨⟨_, accepted, (accepted_values _).1 _ accepted⟩,
    ⟨_, .whole listed, items, (accepted_values _).2 _ _ (.whole listed) items⟩⟩

/-- A refusal in an array is accepted as the document of a reply. -/
theorem listed_refusal_is_accepted :
    (decode "[\x7b\"error\":\"quota\"\x7d]" : Except ServiceError AssistReply) =
        .ok ⟨.object [("error", .string "quota")], none⟩ ∧
      (decode "[\x7b\"error\":\"quota\"\x7d]" : Except ServiceError GenerateReply) =
        .ok ⟨.object [("error", .string "quota")], none, none⟩ ∧
      ∀ value d, Holds "[\x7b\"error\":\"quota\"\x7d]" value → ¬ NamesDocument value d := by
  have parsed : Json.parse? "[\x7b\"error\":\"quota\"\x7d]" =
      some (.array [.object [("error", .string "quota")]]) :=
    Json.parse?_of_feed? rfl
      (by simp [Json.settled, Json.settledItems, Json.settledMembers, Members.put])
  have holds := Holds.whole parsed
  refine ⟨decode_eq_ok_iff.2 ⟨_, holds, rfl, rfl⟩, decode_eq_ok_iff.2 ⟨_, holds, rfl, rfl⟩, ?_⟩
  rintro value d other ⟨members, rfl, -⟩
  have same := (value?_eq_ok_iff.2 holds).symm.trans (value?_eq_ok_iff.2 other)
  cases same

end Reply

end Wireframe
