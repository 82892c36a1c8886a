import Wireframe.Proofs.Document.Truth
import Wireframe.Proofs.Json.Structure
import Wireframe.Proofs.Results

/-!
# What is ignored

The schema asks an object for some members by their names (`Slot.Part`) and ignores the rest : it
is all the same whether other members are there, whether null stands for a member that is not, and
in which order members come (`Slot.Ignores`). Raw values that differ in nothing else, at any number
of places, are validated to the same document or refused for the same issues
(`Document.validate_ignores`).

A change at one place is followed upwards from there : what is checked at a slot stays the same if
what is checked at each part does (`Slot.CheckedAlike`).
-/

namespace Wireframe

/-- One change to a raw value that stands where the schema asks for something. In an object in which
no name comes twice, a member is left out that is null or that is not asked for, or the members come
in another order. Or such a change is made to something that is asked for below. -/
inductive Slot.Ignores : Slot → Json → Json → Prop
  | leaveOut {slot : Slot} {before behind : Members} {name : String} {value : Json}
    (isObject : slot.type = .object) (distinct : (before ++ (name, value) :: behind).names.Nodup)
    (ignored : value = .null ∨ ∀ part, ¬ slot.Part (before ++ (name, value) :: behind) name part) :
    Ignores slot (.object (before ++ (name, value) :: behind)) (.object (before ++ behind))
  | reorder {slot : Slot} {members members' : Members} (isObject : slot.type = .object)
    (distinct : members.names.Nodup) (perm : members.Perm members') :
    Ignores slot (.object members) (.object members')
  | member {slot part : Slot} {before behind : Members} {name : String} {value value' : Json}
    (distinct : (before ++ (name, value) :: behind).names.Nodup)
    (isPart : slot.Part (before ++ (name, value) :: behind) name part)
    (inside : Ignores part value value') :
    Ignores slot (.object (before ++ (name, value) :: behind))
      (.object (before ++ (name, value') :: behind))
  | item {depth : Nat} {before behind : List Json} {value value' : Json}
    (inside : Ignores (.node (depth + 1)) value value') :
    Ignores (.children depth) (.array (before ++ value :: behind))
      (.array (before ++ value' :: behind))

/-! ## Members that are present -/

namespace Members

variable {before behind members members' : Members} {name other : String} {value : Json}

/-- A member is found if it is the only one of its name. -/
theorem get?_middle (distinct : (before ++ (name, value) :: behind).names.Nodup) :
    get? (before ++ (name, value) :: behind) name = some value ∧
      get? (before ++ behind) name = none := by
  rw [names, List.map_append, List.map_cons, List.nodup_middle, ← List.map_append,
    List.nodup_cons] at distinct
  have absent : get? (before ++ behind) name = none := get?_eq_none_iff.2 distinct.1
  have absent_before : get? before name = none := by
    rw [get?_append] at absent
    exact (Option.or_eq_none_iff.1 absent).1
  exact ⟨by rw [get?_append, absent_before, get?_cons_self, Option.none_or], absent⟩

/-- Other members are found as if there was no member in the middle. -/
theorem present?_middle_of_ne (differ : other ≠ name) :
    present? (before ++ (name, value) :: behind) other = present? (before ++ behind) other := by
  simp only [present?, get?_append, get?_cons_of_ne differ.symm]

/-- A member that is null is not present, and so it is when it is left out. -/
theorem present?_middle_null (distinct : (before ++ (name, .null) :: behind).names.Nodup) :
    present? (before ++ (name, .null) :: behind) name = present? (before ++ behind) name := by
  obtain ⟨null, absent⟩ := get?_middle distinct
  simp only [present?, null, absent]

theorem present?_of_perm (distinct : members.names.Nodup) (perm : members.Perm members')
    (name : String) : members.present? name = members'.present? name := by
  simp only [present?, get?, lookup_eq_of_perm perm distinct name]

end Members

/-! ## Checks of one object -/

section

variable {members members' : Members} {path : Path}

attribute [local simp] Fields.string? Fields.string Fields.stringOr Fields.boolOr Fields.number?
  Fields.numberOr Fields.delayOr Fields.choiceOr Fields.get? Fields.place Fields.wrongType

/-- A palette is checked by its colours. -/
theorem Palette.check_congr
    (same : ∀ rule ∈ schema, members.present? rule.name = members'.present? rule.name) :
    check ⟨members, path⟩ = check ⟨members', path⟩ := by
  simp [schema] at same
  simp [check, same]

namespace Node

/-- A node of known type is checked by the fields of the type, and by its children if it is a
group. -/
theorem checkType_congr {type : NodeType} {children children' : Checked (List Node)} (id : String)
    (same : ∀ rule ∈ type.schema, members.present? rule.name = members'.present? rule.name)
    (same_children : type.isGroup = true → children = children') :
    checkType ⟨members, path⟩ id children type = checkType ⟨members', path⟩ id children' type := by
  cases type <;> simp [NodeType.schema, NodeType.isGroup] at same same_children <;>
    simp [checkType, same, same_children]

/-- A node is checked by its type, its id, the fields of the type, and its children if it is a
group. -/
theorem checkMembers_congr {options : ValidationOptions} {children children' : Checked (List Node)}
    (same_type : members.present? "type" = members'.present? "type")
    (same_id : members.present? "id" = members'.present? "id")
    (same : ∀ type, members.nodeType? = some type → ∀ rule ∈ type.schema,
      members.present? rule.name = members'.present? rule.name)
    (same_children : members.NameGroup → children = children') :
    checkMembers options ⟨members, path⟩ children =
      checkMembers options ⟨members', path⟩ children' := by
  have id_eq (fallback : String) : Fields.stringOr ⟨members, path⟩ "id" fallback =
      Fields.stringOr ⟨members', path⟩ "id" fallback := by simp [same_id]
  unfold checkMembers
  simp only [Fields.get?, ← same_type, id_eq]
  cases present : members.present? "type" with
  | none => rfl
  | some raw =>
    cases raw with
    | string word =>
      cases named : (Choices.ofWord? word : Option NodeType) with
      | none =>
        simp only [named]
        rfl
      | some type =>
        have typed : members.nodeType? = some type := by
          simp [Members.nodeType?, present, Json.asString?, named]
        have checked (id : String) : checkType ⟨members, path⟩ id children type =
            checkType ⟨members', path⟩ id children' type :=
          checkType_congr id (same type typed) fun isGroup => same_children ⟨type, typed, isGroup⟩
        simp only [named, checked]
    | _ => rfl

end Node

end

/-! ## Checks at slots -/

/-- Whether two raw values are checked alike where the schema asks for an object or an array. -/
def Slot.CheckedAlike (options : ValidationOptions) (raw raw' : Json) : Slot → Prop
  | document => Document.check options raw = Document.check options raw'
  | palette => ∃ members members', raw = .object members ∧ raw' = .object members' ∧
      ∀ path, Palette.check ⟨members, path⟩ = Palette.check ⟨members', path⟩
  | node depth => ∀ path, Node.check options path depth raw = Node.check options path depth raw'
  | children depth =>
    ∀ path, Node.checkList options path depth raw = Node.checkList options path depth raw'
  | version | nodeType | field _ => False

section

variable {options : ValidationOptions} {members members' : Members}

/-- A document is checked by its version, its palette and its root. -/
theorem Document.check_congr (same_version : members.present? "version" = members'.present? "version")
    (same_palette : Palette.checkField ⟨members, .top⟩ = Palette.checkField ⟨members', .top⟩)
    (same_root : checkRoot options ⟨members, .top⟩ = checkRoot options ⟨members', .top⟩) :
    check options (.object members) = check options (.object members') := by
  have version_eq : checkVersion ⟨members, .top⟩ = checkVersion ⟨members', .top⟩ := by
    simp [checkVersion, Fields.get?, Fields.place, same_version]
  simp only [check, version_eq, same_palette, same_root]

theorem Palette.checkField_congr
    (same : members.present? "palette" = members'.present? "palette") :
    checkField ⟨members, .top⟩ = checkField ⟨members', .top⟩ := by
  simp [checkField, Fields.get?, Fields.place, Fields.wrongType, same]

theorem Document.checkRoot_congr (same : members.present? "root" = members'.present? "root") :
    checkRoot options ⟨members, .top⟩ = checkRoot options ⟨members', .top⟩ := by
  simp [checkRoot, Fields.get?, Fields.place, same]

/-- A node that is an object is checked by its members. -/
theorem Node.check_congr {path : Path} {depth : Nat}
    (same_type : members.present? "type" = members'.present? "type")
    (same_id : members.present? "id" = members'.present? "id")
    (same : ∀ type, members.nodeType? = some type → ∀ rule ∈ type.schema,
      members.present? rule.name = members'.present? rule.name)
    (same_children : members.NameGroup →
      checkChildren options path depth members = checkChildren options path depth members') :
    check options path depth (.object members) = check options path depth (.object members') := by
  rw [check, check, checkMembers_congr same_type same_id same same_children]

/-- An object is checked by the members that the schema asks it for. -/
theorem Slot.checkedAlike_of_present {slot : Slot} (isObject : slot.type = .object)
    (same : ∀ name part, slot.Part members name part →
      members.present? name = members'.present? name) :
    slot.CheckedAlike options (.object members) (.object members') := by
  cases slot with
  | document =>
    exact Document.check_congr (same _ _ .version) (Palette.checkField_congr (same _ _ .palette))
      (Document.checkRoot_congr (same _ _ .root))
  | palette =>
    exact ⟨members, members', rfl, rfl,
      fun path => Palette.check_congr fun rule mem => same _ _ (.colour mem)⟩
  | node depth =>
    refine fun path => Node.check_congr (same _ _ .nodeType) (same _ _ .id)
      (fun type named rule mem => same _ _ (.field named mem)) fun nameGroup => ?_
    rw [Node.checkChildren_eq, Node.checkChildren_eq, same _ (.children depth) (.children nameGroup)]
  | field rule => rcases rule with ⟨name, _ | _ | _ | _ | _, default⟩ <;> cases isObject
  | _ => cases isObject

/-- Items are checked alike if the one that differs is. -/
theorem Node.checkItems_congr {depth : Nat} {value value' : Json} {path : Path} {behind : List Json}
    (same : ∀ path, check options path depth value = check options path depth value') :
    ∀ {before : List Json} {index : Nat},
      checkItems options path depth index (before ++ value :: behind) =
        checkItems options path depth index (before ++ value' :: behind)
  | [], index => by rw [List.nil_append, List.nil_append, checkItems, checkItems, same]
  | first :: before, index => by
    rw [List.cons_append, List.cons_append, checkItems, checkItems,
      checkItems_congr same]

end

namespace Slot

variable {slot : Slot} {raw raw' : Json}

/-- What is ignored is about objects and arrays. -/
theorem Ignores.ne_null (ignored : slot.Ignores raw raw') : raw ≠ .null ∧ raw' ≠ .null := by
  cases ignored <;> exact ⟨nofun, nofun⟩

/-- What is ignored makes no difference to the check of what it is ignored in. -/
theorem Ignores.checkedAlike {options : ValidationOptions} (ignored : slot.Ignores raw raw') :
    slot.CheckedAlike options raw raw' := by
  induction ignored with
  | @leaveOut slot before behind name value isObject distinct ignored =>
    refine checkedAlike_of_present isObject fun other part isPart => ?_
    by_cases same : other = name
    · subst same
      rcases ignored with rfl | unknown
      · exact Members.present?_middle_null distinct
      · exact absurd isPart (unknown part)
    · exact Members.present?_middle_of_ne same
  | reorder isObject distinct perm =>
    exact checkedAlike_of_present isObject fun name _ _ => Members.present?_of_perm distinct perm name
  | @member slot part before behind name value value' distinct isPart inside ih =>
    have others : ∀ other, other ≠ name → Members.present? (before ++ (name, value) :: behind) other =
        Members.present? (before ++ (name, value') :: behind) other := by
      intro other differ
      rw [Members.present?_middle_of_ne differ, Members.present?_middle_of_ne differ]
    have distinct' : (before ++ (name, value') :: behind).names.Nodup := by
      simpa [Members.names] using distinct
    have here : Members.present? (before ++ (name, value) :: behind) name = some value :=
      Members.present?_eq_some.2 ⟨(Members.get?_middle distinct).1, inside.ne_null.1⟩
    have here' : Members.present? (before ++ (name, value') :: behind) name = some value' :=
      Members.present?_eq_some.2 ⟨(Members.get?_middle distinct').1, inside.ne_null.2⟩
    cases isPart with
    | palette =>
      obtain ⟨members, members', rfl, rfl, alike⟩ := ih
      refine Document.check_congr (others _ (by decide)) ?_
        (Document.checkRoot_congr (others _ (by decide)))
      simp [Palette.checkField, Fields.get?, here, here', Fields.place, alike]
    | root =>
      refine Document.check_congr (others _ (by decide))
        (Palette.checkField_congr (others _ (by decide))) ?_
      simp only [Document.checkRoot, Fields.get?, here, here']
      exact ih _
    | children =>
      refine fun path => Node.check_congr (others _ (by decide)) (others _ (by decide))
        (fun type _ rule mem => others _ (NodeType.name_of_mem_schema mem).2) fun _ => ?_
      rw [Node.checkChildren_eq, Node.checkChildren_eq, here, here']
      exact ih _
    | version | colour | nodeType | id | field => exact ih.elim
  | item inside ih =>
    intro path
    rw [Node.checkList, Node.checkList, Node.checkItems_congr ih]

end Slot

/-! ## Documents -/

/-- Whatever is changed of what the schema ignores, in as many places as there may be, a raw value
is validated to the same document or refused for the same issues in the same order. -/
theorem Document.validate_ignores {raw raw' : Json}
    (ignored : Relation.EqvGen (Slot.Ignores .document) raw raw') (options : ValidationOptions) :
    validate options raw = validate options raw' := by
  have alike : check options raw = check options raw' := by
    induction ignored with
    | rel _ _ ignored => exact ignored.checkedAlike
    | refl => rfl
    | symm _ _ _ ih => exact ih.symm
    | trans _ _ _ _ _ first second => exact first.trans second
  rw [validate, validate, alike]

/-- A text without content is missed whether its content is null or left out, whatever the card
that it is in has for an id, and wherever the members stand. -/
theorem Document.content_is_missed_anyway :
    let card (text : Members) : Members :=
      [("type", .string "card"), ("children", .array [.object text])]
    let raw : Json := .object [("note", .bool true), ("version", .string "0.1"),
      ("root", .object (card [("content", .null), ("gap", .bool true), ("type", .string "text")]))]
    let raw' : Json := .object [("version", .string "0.1"),
      ("root", .object (("id", .null) :: (card [("type", .string "text")]).reverse))]
    Relation.EqvGen (Slot.Ignores .document) raw raw' ∧
      validate .structural raw = validate .structural raw' ∧
      validate .structural raw' = .error
        [⟨((((Path.top.key "root").key "children").index 0).key "content"), .missing⟩] := by
  intro card raw raw'
  let version : String × Json := ("version", .string "0.1")
  let gap : String × Json := ("gap", .bool true)
  let type : String × Json := ("type", .string "text")
  have inRoot {r r' : Json} (ignored : (Slot.node 0).Ignores r r') :
      Slot.document.Ignores (.object [version, ("root", r)]) (.object [version, ("root", r')]) :=
    @Slot.Ignores.member _ _ [version] [] _ _ _ (by simp [Members.names, version]) .root ignored
  have inText {text text' : Members} (ignored : (Slot.node 1).Ignores (.object text) (.object text')) :
      (Slot.node 0).Ignores (.object (card text)) (.object (card text')) :=
    @Slot.Ignores.member _ _ [("type", .string "card")] [] _ _ _ (by simp [Members.names])
      (.children ⟨.card, rfl, rfl⟩) (@Slot.Ignores.item _ [] [] _ _ ignored)
  have note : Slot.document.Ignores raw (.object [version, ("root", .object (card
      [("content", .null), gap, type]))]) := by
    have asked : ∀ members name part, Slot.document.Part members name part → name ≠ "note" := by
      intro members name part isPart
      cases isPart <;> decide
    exact @Slot.Ignores.leaveOut _ [] _ _ _ rfl (by simp [Members.names])
      (.inr fun part isPart => asked _ _ _ isPart rfl)
  have content : (Slot.node 1).Ignores (.object [("content", .null), gap, type])
      (.object [gap, type]) := @Slot.Ignores.leaveOut _ [] _ _ _ rfl (by decide) (.inl rfl)
  have unknown : (Slot.node 1).Ignores (.object [gap, type]) (.object [type]) := by
    have asked : ∀ name part, (Slot.node 1).Part [gap, type] name part → name ≠ "gap" := by
      intro name part isPart
      cases isPart with
      | field named mem =>
        obtain rfl := Option.some.inj named
        simp [NodeType.schema] at mem
        rcases mem with rfl | rfl <;> decide
      | _ => decide
    exact @Slot.Ignores.leaveOut _ [] _ _ _ rfl (by decide)
      (.inr fun part isPart => asked _ _ isPart rfl)
  have turned : (Slot.node 0).Ignores (.object (card [type])) (.object (card [type]).reverse) :=
    .reorder rfl (by decide) (List.reverse_perm _).symm
  have id : (Slot.node 0).Ignores (.object (("id", .null) :: (card [type]).reverse))
      (.object (card [type]).reverse) := @Slot.Ignores.leaveOut _ [] _ _ _ rfl (by decide) (.inl rfl)
  have ignored : Relation.EqvGen (Slot.Ignores .document) raw raw' :=
    .trans _ _ _ (.rel _ _ note) <| .trans _ _ _ (.rel _ _ (inRoot (inText content))) <|
      .trans _ _ _ (.rel _ _ (inRoot (inText unknown))) <|
        .trans _ _ _ (.rel _ _ (inRoot turned)) (.symm _ _ (.rel _ _ (inRoot id)))
  exact ⟨ignored, validate_ignores ignored .structural, by decide +kernel⟩

end Wireframe
