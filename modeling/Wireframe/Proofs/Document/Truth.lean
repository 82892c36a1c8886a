import Wireframe.Proofs.Document.Faults

/-!
# True issues

What may stand at a path of a raw value depends on what stands above it : `Slot` names what the
schema asks for, and `Leads` follows a path through a raw value and the schema together. A fault
holds at a path if it is true of what the path leads to (`Fault.Holds`).

The faults of the fields of one object are given by the rules of the schema
(`Members.faults`). Each of them holds where the object stands (`Members.holds_of_mem_faults`).
-/

namespace Wireframe

/-- What the schema asks for at a place of a raw value. Nodes, and the children of nodes, are
counted in levels below the top node. -/
inductive Slot where
  | document
  | version
  | palette
  | node (depth : Nat)
  | nodeType
  | field (rule : FieldRule)
  | children (depth : Nat)

/-- The JSON type of a kind. -/
def FieldKind.type : FieldKind → JsonType
  | text | word _ => .string
  | truth => .boolean
  | number | delay => .number

namespace Slot

/-- The JSON type that is asked for. -/
def type : Slot → JsonType
  | document | palette | node _ => .object
  | version | nodeType => .string
  | field rule => rule.kind.type
  | children _ => .array

/-- Whether the schema can do without. -/
def optional : Slot → Bool
  | palette | children _ => true
  | field rule => rule.default.isSome
  | document | version | node _ | nodeType => false

/-- Whether a value may have a JSON type. Null stands for what is left out. -/
def Allows (slot : Slot) (type : JsonType) : Prop :=
  type = slot.type ∨ (slot.optional = true ∧ type = .null)

/-- The members of an object that the schema knows, and what it asks for there. -/
inductive Part (members : Members) : Slot → String → Slot → Prop
  | version : Part members document "version" version
  | palette : Part members document "palette" palette
  | root : Part members document "root" (node 0)
  | colour {rule : FieldRule} (mem : rule ∈ Palette.schema) :
    Part members palette rule.name (field rule)
  | nodeType {depth : Nat} : Part members (node depth) "type" nodeType
  | id {depth : Nat} : Part members (node depth) "id" (field (idRule ""))
  | field {depth : Nat} {type : NodeType} {rule : FieldRule}
    (named : members.nodeType? = some type) (mem : rule ∈ type.schema) :
    Part members (node depth) rule.name (field rule)
  | children {depth : Nat} (nameGroup : members.NameGroup) :
    Part members (node depth) "children" (children depth)

end Slot

/-- Where a path leads in a raw value that is taken for what stands at the top. -/
inductive Leads (top : Slot) (raw : Json) : Path → Slot → Json → Prop
  | top : Leads top raw .top top raw
  | member {path : Path} {slot part : Slot} {members : Members} {name : String} {value : Json}
    (leads : Leads top raw path slot (.object members)) (isPart : slot.Part members name part)
    (found : members.get? name = some value) : Leads top raw (path.key name) part value
  | item {path : Path} {depth i : Nat} {items : List Json} {value : Json}
    (leads : Leads top raw path (.children depth) (.array items))
    (found : items[i]? = some value) : Leads top raw (path.index i) (.node (depth + 1)) value

/-- Faults that are true of what a path leads to. -/
inductive Fault.Holds (bound : Nat) (top : Slot) (raw : Json) : Path → Fault → Prop
  | missing {path : Path} {slot part : Slot} {members : Members} {name : String}
    (leads : Leads top raw path slot (.object members)) (isPart : slot.Part members name part)
    (required : part.optional = false) (absent : members.present? name = none) :
    Holds bound top raw (path.key name) .missing
  | wrongType {path : Path} {slot : Slot} {value : Json} (leads : Leads top raw path slot value)
    (refused : ¬ slot.Allows value.type) :
    Holds bound top raw path (.wrongType slot.type value.type)
  | notAChoice {path : Path} {rule : FieldRule} {words : List String} {word : String}
    (leads : Leads top raw path (.field rule) (.string word)) (isWord : rule.kind = .word words)
    (unlisted : word ∉ words) : Holds bound top raw path (.notAChoice words word)
  | unknownType {path : Path} {word : String} (leads : Leads top raw path .nodeType (.string word))
    (unlisted : word ∉ Choices.words NodeType) : Holds bound top raw path (.unknownType word)
  | versionMismatch {value : Json}
    (leads : Leads top raw (Path.top.key "version") .version value) (present : value ≠ .null)
    (other : value ≠ .string "0.1") :
    Holds bound top raw (Path.top.key "version") .versionMismatch
  | tooDeep {path : Path} {value : Json} (leads : Leads top raw path (.node (bound + 1)) value) :
    Holds bound top raw path (.tooDeep bound)

/-! ## Faults of fields -/

/-- What is wrong with a raw value of a kind. -/
def FieldKind.fault? : FieldKind → Json → Option Fault
  | word words, .string value => if value ∈ words then none else some (.notAChoice words value)
  | kind, raw =>
    if raw.type = kind.type then none else some (.wrongType kind.type raw.type)

/-- What is wrong with a field among the members of an object. -/
def FieldRule.fault? (rule : FieldRule) (members : Members) : Option Fault :=
  match members.present? rule.name with
  | none => if rule.default.isSome then none else some .missing
  | some raw => rule.kind.fault? raw

section

variable {bound : Nat} {top : Slot} {raw : Json} {path : Path}

theorem Leads.present {slot part : Slot} {members : Members} {name : String} {value : Json}
    (leads : Leads top raw path slot (.object members)) (isPart : slot.Part members name part)
    (present : members.present? name = some value) : Leads top raw (path.key name) part value :=
  leads.member isPart (Members.present?_eq_some.1 present).1

/-- A value that is there but not of the type that is asked for. -/
theorem Fault.Holds.of_type_ne {slot : Slot} {value : Json} (leads : Leads top raw path slot value)
    (not_null : value ≠ .null) (other : value.type ≠ slot.type) :
    Holds bound top raw path (.wrongType slot.type value.type) := by
  refine .wrongType leads ?_
  rintro (same | ⟨-, null⟩)
  · exact other same
  · cases value <;> first | exact not_null rfl | cases null

/-- What is wrong with a field holds there. -/
theorem FieldRule.holds_of_fault? {rule : FieldRule} {slot : Slot} {members : Members}
    {fault : Fault} (leads : Leads top raw path slot (.object members))
    (isPart : slot.Part members rule.name (.field rule))
    (faulty : rule.fault? members = some fault) :
    fault.Holds bound top raw (path.key rule.name) := by
  unfold fault? at faulty
  split at faulty
  case h_1 absent =>
    split_ifs at faulty with optional
    cases faulty
    exact .missing leads isPart (by simpa [Slot.optional] using optional) absent
  case h_2 value present =>
    have there := leads.present isPart present
    unfold FieldKind.fault? at faulty
    split at faulty
    case h_1 words word kind_eq =>
      split_ifs at faulty with listed
      cases faulty
      exact .notAChoice there kind_eq listed
    case h_2 =>
      split_ifs at faulty with same
      cases faulty
      exact .of_type_ne there (Members.present?_eq_some.1 present).2 same

end

/-! ## Faults of nodes -/

/-- What is wrong with the members of a node apart from its children, by their names. -/
def Members.faults (members : Members) : List (String × Option Fault) :=
  match members.present? "type" with
  | none => [("type", some .missing)]
  | some (.string word) =>
    ("id", (idRule "").fault? members) ::
      match Choices.ofWord? word with
      | none => [("type", some (.unknownType word))]
      | some type => NodeType.schema type |>.map fun rule => (rule.name, rule.fault? members)
  | some other => [("type", some (.wrongType .string other.type))]

namespace Members

theorem faults_of_nodeType {members : Members} {type : NodeType}
    (named : members.nodeType? = some type) :
    members.faults = ("id", (idRule "").fault? members) ::
      type.schema.map fun rule => (rule.name, rule.fault? members) := by
  have present := nodeType?_eq_some_iff.1 named
  unfold faults
  rw [present]
  simp only [LawfulChoices.ofWord?_word]

/-- The names of the fields of a type differ, and none is that of the children. -/
theorem nodup_names (type : NodeType) :
    ("children" :: "id" :: type.schema.map FieldRule.name).Nodup := by
  cases type <;> decide

/-- What is wrong is told of each member once, and not of the children. -/
theorem nodup_faults (members : Members) : ("children" :: members.faults.map Prod.fst).Nodup := by
  unfold faults
  split
  case h_1 => decide
  case h_2 word _ =>
    split
    · simp
    · next type _ => simpa [Function.comp_def] using nodup_names type
  case h_3 => simp

/-- What is wrong with the members of a node holds there. -/
theorem holds_of_mem_faults {bound depth : Nat} {top : Slot} {raw : Json} {path : Path}
    {members : Members} (leads : Leads top raw path (.node depth) (.object members)) {name : String}
    {fault : Fault} (mem : (name, some fault) ∈ members.faults) :
    fault.Holds bound top raw (path.key name) := by
  unfold faults at mem
  split at mem
  case h_1 absent =>
    obtain ⟨rfl, rfl⟩ : name = "type" ∧ fault = .missing := by simpa using mem
    exact .missing leads .nodeType rfl absent
  case h_2 word present =>
    rcases List.mem_cons.1 mem with id | mem
    · obtain ⟨rfl, faulty⟩ := Prod.mk.inj id
      exact FieldRule.holds_of_fault? leads .id faulty.symm
    · split at mem
      case h_1 unknown =>
        obtain ⟨rfl, rfl⟩ : name = "type" ∧ fault = .unknownType word := by simpa using mem
        refine .unknownType (leads.present .nodeType present) ?_
        rw [← Choices.isSome_ofWord?, unknown]
        simp
      case h_2 type known =>
        obtain ⟨rule, isRule, entry⟩ := List.mem_map.1 mem
        obtain ⟨rfl, faulty⟩ := Prod.mk.inj entry
        have named : members.nodeType? = some type := by simp [nodeType?, present, Json.asString?, known]
        exact FieldRule.holds_of_fault? leads (.field named isRule) faulty
  case h_3 value other present =>
    obtain ⟨rfl, rfl⟩ : name = "type" ∧ fault = .wrongType .string value.type := by simpa using mem
    have there := leads.present .nodeType present
    refine .of_type_ne there (present?_eq_some.1 present).2 fun same => ?_
    cases value <;> first | exact other _ rfl | cases same

end Members

end Wireframe
