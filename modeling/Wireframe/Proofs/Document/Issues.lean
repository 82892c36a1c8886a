import Wireframe.Proofs.Document.Truth

/-!
# Issues of raw values

What the validator reports of a node is what is wrong with its own fields (`Members.faults`), with
all that its children report in between (`Node.issues_checkMembers`).
-/

namespace Wireframe

/-! ## Fields -/

namespace Fields

variable (f : Fields) (name : String)

/-- What is wrong with a field as a list of issues. -/
def issueAt (fault : Option Fault) : List Issue :=
  (fault.map (Issue.mk (f.place name))).toList

/-- What is wrong with a field of an object. -/
def ruleIssues (rule : FieldRule) : List Issue :=
  f.issueAt rule.name (rule.fault? f.members)

/-- What is wrong with a field that may be left out. -/
def issuesIfPresent (kind : FieldKind) : List Issue :=
  f.issueAt name ((f.members.present? name).bind kind.fault?)

@[simp] theorem ruleIssues_optional (kind : FieldKind) (default : FieldValue) :
    f.ruleIssues ⟨name, kind, some default⟩ = f.issuesIfPresent name kind := by
  simp only [ruleIssues, FieldRule.fault?, issuesIfPresent]
  cases f.members.present? name <;> rfl

@[simp] theorem issues_string? : (f.string? name).issues = f.issuesIfPresent name .text := by
  simp only [issuesIfPresent, string?, get?]
  cases f.members.present? name with
  | none => rfl
  | some raw => cases raw <;> rfl

@[simp] theorem issues_string : (f.string name).issues = f.ruleIssues ⟨name, .text, none⟩ := by
  simp only [ruleIssues, FieldRule.fault?, string, get?]
  cases f.members.present? name with
  | none => rfl
  | some raw => cases raw <;> rfl

@[simp] theorem issues_stringOr (fallback : String) :
    (f.stringOr name fallback).issues = f.issuesIfPresent name .text := by
  simp [stringOr]

@[simp] theorem issues_boolOr (fallback : Bool) :
    (f.boolOr name fallback).issues = f.issuesIfPresent name .truth := by
  simp only [issuesIfPresent, boolOr, get?]
  cases f.members.present? name with
  | none => rfl
  | some raw => cases raw <;> rfl

@[simp] theorem issues_number? : (f.number? name).issues = f.issuesIfPresent name .number := by
  simp only [issuesIfPresent, number?, get?]
  cases f.members.present? name with
  | none => rfl
  | some raw => cases raw <;> rfl

@[simp] theorem issues_numberOr (fallback : Double) :
    (f.numberOr name fallback).issues = f.issuesIfPresent name .number := by
  simp [numberOr]

@[simp] theorem issues_delayOr (fallback : UInt64) :
    (f.delayOr name fallback).issues = f.issuesIfPresent name .delay := by
  simp only [issuesIfPresent, delayOr, number?, get?, Checked.issues_bind]
  cases f.members.present? name with
  | none => rfl
  | some raw => cases raw <;> rfl

@[simp] theorem issues_choiceOr {α : Type} [Choices α] (fallback : α) :
    (f.choiceOr name fallback).issues = f.issuesIfPresent name (.word (Choices.words α)) := by
  simp only [issuesIfPresent, choiceOr, get?]
  cases f.members.present? name with
  | none => rfl
  | some raw =>
    cases raw with
    | string word =>
      cases named : (Choices.ofWord? word : Option α) with
      | none =>
        have unlisted : word ∉ Choices.words α := by
          rw [← Choices.isSome_ofWord?, named]
          simp
        simp [FieldKind.fault?, unlisted, named, issueAt]
      | some value =>
        have listed : word ∈ Choices.words α := by
          rw [← Choices.isSome_ofWord?, named]
          rfl
        simp [FieldKind.fault?, listed, named, issueAt]
    | _ => rfl

/-- What is wrong with several fields. -/
def issuesOf (faults : List (String × Option Fault)) : List Issue :=
  faults.flatMap fun entry => f.issueAt entry.1 entry.2

/-- What is wrong with the id comes first. -/
theorem issuesOf_id (rest : List (String × Option Fault)) :
    f.issuesOf (("id", (idRule "").fault? f.members) :: rest) =
      f.issuesIfPresent "id" .text ++ f.issuesOf rest := by
  rw [issuesOf, List.flatMap_cons, ← f.ruleIssues_optional "id" .text (.text "")]
  rfl

theorem issuesOf_rules (rules : List FieldRule) :
    f.issuesOf (rules.map fun rule => (rule.name, rule.fault? f.members)) =
      rules.flatMap f.ruleIssues := by
  rw [issuesOf, List.flatMap_map]
  rfl

end Fields

/-! ## Nodes -/

namespace Node

/-- A node of known type reports of its fields in the order of the schema. What its children report
stands somewhere in between if it is a group, and is ignored otherwise. -/
theorem issues_checkType (f : Fields) (type : NodeType) :
    ∃ before behind, type.schema.flatMap f.ruleIssues = before ++ behind ∧
      ∀ (id : String) (children : Checked (List Node)), (checkType f id children type).issues =
        before ++ (if type.isGroup then children.issues else []) ++ behind := by
  rw [NodeType.schema_eq_rules]
  cases type with
  | container =>
    exact ⟨_, [], (List.append_nil _).symm, fun id children => by
      simp [checkType, NodeType.rules, NodeType.isGroup]⟩
  | card =>
    exact ⟨[], _, (List.nil_append _).symm, fun id children => by
      simp [checkType, NodeType.rules, NodeType.isGroup]⟩
  | _ =>
    exact ⟨_, [], (List.append_nil _).symm, fun id children => by
      simp [checkType, NodeType.rules, NodeType.isGroup]⟩

/-- Members that name no type report what is wrong with them, whatever their children are. -/
theorem issues_checkMembers_of_untyped {options : ValidationOptions} {f : Fields}
    (untyped : f.members.nodeType? = none) (children : Checked (List Node)) :
    (checkMembers options f children).issues = f.issuesOf f.members.faults := by
  unfold Members.nodeType? at untyped
  unfold checkMembers Members.faults Fields.get?
  cases present : f.members.present? "type" with
  | none => rfl
  | some raw =>
    cases raw with
    | string word =>
      have unknown : (Choices.ofWord? word : Option NodeType) = none := by
        simpa [present, Json.asString?] using untyped
      simp only [unknown, Checked.issues_bind, Fields.issues_stringOr, Fields.issuesOf_id]
      rfl
    | _ => rfl

/-- Members that name a type report what is wrong with the id and then what the type reports. -/
theorem issues_checkMembers_of_typed {options : ValidationOptions} {f : Fields} {type : NodeType}
    (typed : f.members.nodeType? = some type) (children : Checked (List Node)) :
    (checkMembers options f children).issues = f.issuesIfPresent "id" .text ++
      (checkType f (f.stringOr "id" (options.ids f.path)).value children type).issues := by
  have present : f.get? "type" = some (.string (Choices.word type)) :=
    Members.nodeType?_eq_some_iff.1 typed
  simp [checkMembers, present]

/-- The members of a node report what is wrong with them, each where it stands. What its children
report stands somewhere in between if it is a group, and is ignored otherwise. -/
theorem issues_checkMembers (options : ValidationOptions) (f : Fields) :
    ∃ before behind, f.issuesOf f.members.faults = before ++ behind ∧
      ∀ children : Checked (List Node),
        (f.members.NameGroup →
          (checkMembers options f children).issues = before ++ children.issues ++ behind) ∧
        (¬ f.members.NameGroup →
          (checkMembers options f children).issues = before ++ behind) := by
  cases typed : f.members.nodeType? with
  | none =>
    refine ⟨_, [], (List.append_nil _).symm, fun children => ⟨?_, fun _ => ?_⟩⟩
    · rintro ⟨type, named, -⟩
      simp [typed] at named
    · rw [issues_checkMembers_of_untyped typed, List.append_nil]
  | some type =>
    obtain ⟨before, behind, own, all⟩ := issues_checkType f type
    refine ⟨f.issuesIfPresent "id" .text ++ before, behind, ?_, fun children => ?_⟩
    · rw [List.append_assoc, ← own, Members.faults_of_nodeType typed, Fields.issuesOf_id,
        Fields.issuesOf_rules]
    · have nameGroup : f.members.NameGroup ↔ type.isGroup = true := by
        simp [Members.NameGroup, typed]
      rw [issues_checkMembers_of_typed typed, all, nameGroup]
      refine ⟨fun isGroup => ?_, fun isLeaf => ?_⟩
      · simp [isGroup]
      · simp [isLeaf]

/-- Without its children a node reports what is wrong with its members and nothing else. -/
theorem issues_checkMembers_of_childless (options : ValidationOptions) (f : Fields) :
    (checkMembers options f (pure [])).issues = f.issuesOf f.members.faults := by
  obtain ⟨before, behind, own, all⟩ := issues_checkMembers options f
  by_cases nameGroup : f.members.NameGroup
  · rw [own, (all _).1 nameGroup, Checked.issues_pure, List.append_nil]
  · rw [own, (all _).2 nameGroup]

/-- Items report one after the other what each of them reports alone. -/
theorem issues_checkItems (options : ValidationOptions) (path : Path) (depth : Nat) :
    ∀ (index : Nat) (items : List Json), (checkItems options path depth index items).issues =
      (items.zipIdx index).flatMap fun entry =>
        (check options (path.index entry.2) depth entry.1).issues
  | _, [] => rfl
  | index, item :: rest => by
    simp only [checkItems, Checked.issues_bind, Checked.issues_pure, List.append_nil,
      issues_checkItems options path depth (index + 1) rest, List.zipIdx_cons, List.flatMap_cons]

end Node

end Wireframe
