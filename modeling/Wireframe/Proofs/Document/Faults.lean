import Wireframe.Proofs.Document.Acceptance

/-!
# Where issues lie

The issues of a raw node are those of its own fields, each one step below its path, and those of
its children if it is of a type with children (`Node.mem_issues_checkMembers`). It has none of its
own exactly if a type admits its members (`Node.issues_checkAlone_eq_nil_iff`). All of them lie at
the path of the node or below it (`Node.prefix_of_mem_issues`).
-/

namespace Wireframe

/-! ## Issues of checks -/

namespace Checked

variable {α β : Type}

@[simp] theorem issues_pure (a : α) : (pure a : Checked α).issues = [] :=
  rfl

@[simp] theorem issues_report (path : Path) (fault : Fault) (standIn : α) :
    (report path fault standIn).issues = [⟨path, fault⟩] :=
  rfl

@[simp] theorem issues_bind (c : Checked α) (next : α → Checked β) :
    (c >>= next).issues = c.issues ++ (next c.value).issues :=
  rfl

theorem isSome_outcome_iff {c : Checked α} : c.outcome.isSome ↔ c.issues = [] := by
  by_cases fine : c.issues = [] <;> simp [outcome, fine]

/-- Whether everything that a check found is wrong with one field of an object. -/
def AtFields (c : Checked α) (path : Path) : Prop :=
  ∀ issue ∈ c.issues, ∃ name, issue.path = path.key name

@[simp] theorem atFields_pure (a : α) (path : Path) : (pure a : Checked α).AtFields path := by
  simp [AtFields]

@[simp] theorem atFields_bind {c : Checked α} {next : α → Checked β} {path : Path} :
    (c >>= next).AtFields path ↔ c.AtFields path ∧ (next c.value).AtFields path := by
  simp only [AtFields, issues_bind, List.mem_append, or_imp, forall_and]

end Checked

namespace Fields

variable (f : Fields) (name : String)

@[simp] theorem atFields_report {α : Type} (fault : Fault) (standIn : α) :
    (Checked.report (f.place name) fault standIn).AtFields f.path := by
  rintro issue mem
  obtain rfl := List.mem_singleton.1 mem
  exact ⟨name, rfl⟩

@[simp] theorem atFields_wrongType {α : Type} (expected : JsonType) (received : Json)
    (standIn : α) : (f.wrongType name expected received standIn).AtFields f.path :=
  f.atFields_report name _ standIn

@[simp] theorem atFields_string? : (f.string? name).AtFields f.path := by
  unfold string?
  split <;> simp

@[simp] theorem atFields_string : (f.string name).AtFields f.path := by
  unfold string
  split <;> simp

@[simp] theorem atFields_stringOr (fallback : String) :
    (f.stringOr name fallback).AtFields f.path := by
  simp [stringOr]

@[simp] theorem atFields_boolOr (fallback : Bool) : (f.boolOr name fallback).AtFields f.path := by
  unfold boolOr
  split <;> simp

@[simp] theorem atFields_number? : (f.number? name).AtFields f.path := by
  unfold number?
  split <;> simp

@[simp] theorem atFields_numberOr (fallback : Double) :
    (f.numberOr name fallback).AtFields f.path := by
  simp [numberOr]

@[simp] theorem atFields_delayOr (fallback : UInt64) :
    (f.delayOr name fallback).AtFields f.path := by
  rw [delayOr, Checked.atFields_bind]
  refine ⟨f.atFields_number? name, ?_⟩
  split <;> simp

@[simp] theorem atFields_choiceOr {α : Type} [Choices α] (fallback : α) :
    (f.choiceOr name fallback).AtFields f.path := by
  unfold choiceOr
  split
  · simp
  · split <;> simp
  · simp

end Fields

theorem Palette.atFields_check (f : Fields) : (check f).AtFields f.path := by
  simp [check]

/-! ## Types of raw nodes -/

namespace Members

/-- The type that the members of an object name, if it is a known one. -/
def nodeType? (members : Members) : Option NodeType :=
  ((members.present? "type").bind Json.asString?).bind Choices.ofWord?

theorem nodeType?_eq_some_iff {members : Members} {type : NodeType} :
    members.nodeType? = some type ↔
      members.present? "type" = some (.string (Choices.word type)) := by
  simp only [nodeType?, Option.bind_eq_some_iff]
  constructor
  · rintro ⟨word, ⟨raw, present, isWord⟩, named⟩
    cases raw with
    | string text =>
      obtain rfl : text = word := by simpa [Json.asString?] using isWord
      rw [present, Choices.word_of_ofWord? named]
    | _ => simp [Json.asString?] at isWord
  · intro present
    exact ⟨_, ⟨_, present, rfl⟩, LawfulChoices.ofWord?_word type⟩

/-- Whether the members of an object name a type with children. -/
def NameGroup (members : Members) : Prop :=
  ∃ type, members.nodeType? = some type ∧ type.isGroup = true

end Members

theorem NodeType.Admits.nodeType?_eq {type : NodeType} {members : Members}
    (admits : type.Admits members) : members.nodeType? = some type :=
  Members.nodeType?_eq_some_iff.2 admits.type_eq

/-! ## Issues of nodes -/

namespace Node

variable {options : ValidationOptions} {path : Path} {depth : Nat}

/-- The members of a node without its children. -/
def checkAlone (options : ValidationOptions) (f : Fields) : Checked (Option Node) :=
  checkMembers options f (pure [])

/-- The fields of a type are checked whatever becomes of the children. -/
theorem mem_issues_checkType {f : Fields} {id : String} {children : Checked (List Node)}
    {type : NodeType} {issue : Issue} :
    issue ∈ (checkType f id children type).issues ↔
      issue ∈ (checkType f id (pure []) type).issues ∨
        type.isGroup = true ∧ issue ∈ children.issues := by
  cases type with
  | container => simp [checkType, NodeType.isGroup, or_left_comm, or_comm]
  | card => simp [checkType, NodeType.isGroup, or_comm]
  | _ => simp [checkType, NodeType.isGroup]

theorem atFields_checkType (f : Fields) (id : String) (type : NodeType) :
    (checkType f id (pure []) type).AtFields f.path := by
  cases type <;> simp [checkType]

/-- The issues of a node are its own and, if it is a group, those of its children. -/
theorem mem_issues_checkMembers {f : Fields} {children : Checked (List Node)} {issue : Issue} :
    issue ∈ (checkMembers options f children).issues ↔
      issue ∈ (checkAlone options f).issues ∨ f.members.NameGroup ∧ issue ∈ children.issues := by
  unfold checkAlone checkMembers Members.NameGroup Members.nodeType? Fields.get?
  cases f.members.present? "type" with
  | none => simp
  | some raw =>
    cases raw with
    | string word =>
      cases named : (Choices.ofWord? word : Option NodeType) with
      | none => simp [Json.asString?, named]
      | some type =>
        simp only [named, Checked.issues_bind, Checked.issues_pure, List.append_nil,
          List.mem_append]
        rw [mem_issues_checkType]
        simp [Json.asString?, named, or_assoc]
    | _ => simp [Json.asString?]

/-- A node has its own issues at its fields. -/
theorem atFields_checkAlone (f : Fields) : (checkAlone options f).AtFields f.path := by
  unfold checkAlone checkMembers
  split
  · simp
  · rw [Checked.atFields_bind]
    refine ⟨f.atFields_stringOr _ _, ?_⟩
    split
    · simp [atFields_checkType]
    · simp
  · simp

/-- A node has no issues of its own exactly if a type admits its members. -/
theorem issues_checkAlone_eq_nil_iff {f : Fields} :
    (checkAlone options f).issues = [] ↔ ∃ type : NodeType, type.Admits f.members := by
  rw [← Checked.isSome_outcome_iff]
  constructor
  · intro fine
    obtain ⟨o, come_out⟩ := Option.isSome_iff_exists.1 fine
    obtain ⟨node, -, shown, -⟩ := outcome_checkMembers come_out
    exact ⟨node.type, shown.admits⟩
  · rintro ⟨type, admits⟩
    exact isSome_outcome_checkMembers admits fun _ => rfl

/-- Where a type admits the members only children can have issues, and only those of a group. -/
theorem mem_issues_checkMembers_of_admits {f : Fields} {children : Checked (List Node)}
    {type : NodeType} (admits : type.Admits f.members) {issue : Issue} :
    issue ∈ (checkMembers options f children).issues ↔
      type.isGroup = true ∧ issue ∈ children.issues := by
  have fine : (checkAlone options f).issues = [] :=
    issues_checkAlone_eq_nil_iff.2 ⟨type, admits⟩
  simp [mem_issues_checkMembers, fine, Members.NameGroup, admits.nodeType?_eq]

/-- Where a type without children admits the members nothing is wrong. -/
theorem issues_checkMembers_of_leaf {f : Fields} {children : Checked (List Node)}
    {type : NodeType} (admits : type.Admits f.members) (isLeaf : type.isGroup = false) :
    (checkMembers options f children).issues = [] := by
  rw [List.eq_nil_iff_forall_not_mem]
  intro issue mem
  obtain ⟨isGroup, -⟩ := (mem_issues_checkMembers_of_admits admits).1 mem
  exact absurd (isLeaf.symm.trans isGroup) (by decide)

/-- The issues of items are those of each. -/
theorem mem_issues_checkItems {issue : Issue} : ∀ {index : Nat} {items : List Json},
    issue ∈ (checkItems options path depth index items).issues ↔
      ∃ (i : Nat) (hi : i < items.length),
        issue ∈ (check options (path.index (index + i)) depth items[i]).issues
  | _, [] => by simp [checkItems]
  | index, item :: rest => by
    have others : issue ∈ (checkItems options path depth (index + 1) rest).issues ↔ _ :=
      mem_issues_checkItems
    simp only [checkItems, Checked.issues_bind, Checked.issues_pure, List.append_nil,
      List.mem_append, others]
    constructor
    · rintro (first | ⟨i, hi, later⟩)
      · exact ⟨0, by simp, first⟩
      · refine ⟨i + 1, by simpa using hi, ?_⟩
        rwa [show index + (i + 1) = index + 1 + i by omega]
    · rintro ⟨_ | i, hi, mem⟩
      · exact .inl mem
      · refine .inr ⟨i, by simpa using hi, ?_⟩
        rwa [show index + 1 + i = index + (i + 1) by omega]

/-- A raw node that is not nested too deep is checked by its members. -/
theorem check_object (within : depth ≤ options.maxDepth) (members : Members) :
    check options path depth (.object members) =
      checkMembers options ⟨members, path⟩ (checkChildren options path depth members) := by
  rw [check, if_neg (Nat.not_lt.2 within)]

/-- A value that cannot be a node has one issue, at its path. -/
theorem issues_check_of_not_node {raw : Json}
    (not_node : options.maxDepth < depth ∨ ∀ members, raw ≠ .object members) :
    (check options path depth raw).issues =
      [⟨path, if options.maxDepth < depth then .tooDeep options.maxDepth
        else .wrongType .object raw.type⟩] := by
  cases raw with
  | object members =>
    rcases not_node with deep | other
    · simp [check, deep]
    · exact absurd rfl (other members)
  | _ => by_cases deep : options.maxDepth < depth <;> simp [check, deep]

/-- The children of an object are none, items that are checked, or no list. -/
theorem checkChildren_cases (options : ValidationOptions) (path : Path) (depth : Nat)
    (members : Members) :
    (∃ items, ChildItems members items ∧ checkChildren options path depth members =
        checkItems options (path.key "children") (depth + 1) 0 items) ∨
      ((∀ items, ¬ ChildItems members items) ∧
        ∃ fault, checkChildren options path depth members =
          .report (path.key "children") fault []) := by
  rw [checkChildren_eq]
  cases present : members.present? "children" with
  | none => exact .inl ⟨[], .unset present, rfl⟩
  | some raw =>
    cases raw with
    | null => exact absurd rfl (Members.present?_eq_some.1 present).2
    | array items => exact .inl ⟨items, .array present, rfl⟩
    | _ =>
      refine .inr ⟨?_, _, rfl⟩
      rintro items (unset | array)
      · simp [present] at unset
      · simp [present] at array

/-- Every issue of a raw node lies at its path or below. -/
theorem prefix_of_mem_issues (raw : Json) : ∀ {path : Path} {depth : Nat} {issue : Issue},
    issue ∈ (check options path depth raw).issues → path.segments <+: issue.path.segments := by
  induction raw using Json.childrenInduction with
  | step raw ih =>
    intro path depth issue mem
    by_cases node : depth ≤ options.maxDepth ∧ ∃ members, raw = .object members
    · obtain ⟨within, members, rfl⟩ := node
      rw [check_object within, mem_issues_checkMembers] at mem
      rcases mem with own | ⟨-, below⟩
      · obtain ⟨name, path_eq⟩ := atFields_checkAlone _ issue own
        rw [path_eq]
        exact List.prefix_append _ _
      · rcases checkChildren_cases options path depth members with
          ⟨items, children, checked⟩ | ⟨-, fault, checked⟩
        · rw [checked, mem_issues_checkItems] at below
          obtain ⟨i, hi, mem⟩ := below
          cases children with
          | unset => simp at hi
          | array present =>
            have deeper := ih members items rfl present _ (List.getElem_mem hi) mem
            simp only [Path.index, Path.key, List.append_assoc] at deeper
            exact (List.prefix_append _ _).trans deeper
        · rw [checked] at below
          obtain rfl := List.mem_singleton.1 below
          exact List.prefix_append _ _
    · have not_node : options.maxDepth < depth ∨ ∀ members, raw ≠ .object members := by
        rw [not_and_or, not_exists, Nat.not_le] at node
        exact node
      rw [issues_check_of_not_node not_node] at mem
      obtain rfl := List.mem_singleton.1 mem
      exact List.prefix_refl _

end Node

/-! ## Issues of documents -/

namespace Document

variable {options : ValidationOptions} {members : Members} {issue : Issue}

theorem path_of_mem_checkVersion (mem : issue ∈ (checkVersion ⟨members, .top⟩).issues) :
    issue.path = Path.top.key "version" := by
  unfold checkVersion at mem
  split at mem
  · obtain rfl := List.mem_singleton.1 mem
    rfl
  · split at mem
    · simp at mem
    · obtain rfl := List.mem_singleton.1 mem
      rfl
  · obtain rfl := List.mem_singleton.1 mem
    rfl

theorem prefix_of_mem_palette (mem : issue ∈ (Palette.checkField ⟨members, .top⟩).issues) :
    [.key "palette"] <+: issue.path.segments := by
  unfold Palette.checkField at mem
  split at mem
  · simp at mem
  · next colours _ =>
    rw [Checked.issues_bind, Checked.issues_pure, List.append_nil] at mem
    obtain ⟨name, path_eq⟩ := Palette.atFields_check _ issue mem
    rw [path_eq]
    exact List.prefix_append _ _
  · obtain rfl := List.mem_singleton.1 mem
    exact List.prefix_refl _

theorem prefix_of_mem_checkRoot (mem : issue ∈ (checkRoot options ⟨members, .top⟩).issues) :
    [.key "root"] <+: issue.path.segments := by
  unfold checkRoot at mem
  split at mem
  · obtain rfl := List.mem_singleton.1 mem
    exact List.prefix_refl _
  · exact Node.prefix_of_mem_issues _ mem

end Document

end Wireframe
