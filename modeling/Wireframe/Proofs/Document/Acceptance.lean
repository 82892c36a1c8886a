import Wireframe.Proofs.Document.Outcome
import Wireframe.Proofs.Document.Schema
import Wireframe.Proofs.Json.Members

/-!
# Validation and the schema

The validator accepts what the schema admits and gives what the schema reads.
-/

namespace Wireframe

/-! ## Fields

A check of a field comes out as the rule of that field reads it.
-/

namespace Fields

variable (f : Fields) (name : String)

theorem read?_string? :
    FieldRule.read? ⟨name, .text, some .unset⟩ f.members =
      (f.string? name).outcome.map (.ofOption .text) := by
  simp only [FieldRule.read?, string?, Fields.get?]
  cases f.members.present? name with
  | none => rfl
  | some raw => cases raw <;> rfl

theorem read?_string :
    FieldRule.read? ⟨name, .text, none⟩ f.members = (f.string name).outcome.map .text := by
  simp only [FieldRule.read?, string, Fields.get?]
  cases f.members.present? name with
  | none => rfl
  | some raw => cases raw <;> rfl

theorem read?_stringOr (fallback : String) :
    FieldRule.read? ⟨name, .text, some (.text fallback)⟩ f.members =
      (f.stringOr name fallback).outcome.map .text := by
  simp only [FieldRule.read?, stringOr, string?, Fields.get?, Checked.outcome_bind]
  cases f.members.present? name with
  | none => rfl
  | some raw => cases raw <;> rfl

theorem read?_boolOr (fallback : Bool) :
    FieldRule.read? ⟨name, .truth, some (.truth fallback)⟩ f.members =
      (f.boolOr name fallback).outcome.map .truth := by
  simp only [FieldRule.read?, boolOr, Fields.get?]
  cases f.members.present? name with
  | none => rfl
  | some raw => cases raw <;> rfl

theorem read?_number? :
    FieldRule.read? ⟨name, .number, some .unset⟩ f.members =
      (f.number? name).outcome.map (.ofOption .number) := by
  simp only [FieldRule.read?, number?, Fields.get?]
  cases f.members.present? name with
  | none => rfl
  | some raw => cases raw <;> rfl

theorem read?_numberOr (fallback : Double) :
    FieldRule.read? ⟨name, .number, some (.number fallback)⟩ f.members =
      (f.numberOr name fallback).outcome.map .number := by
  simp only [FieldRule.read?, numberOr, number?, Fields.get?, Checked.outcome_bind]
  cases f.members.present? name with
  | none => rfl
  | some raw => cases raw <;> rfl

theorem read?_delayOr (fallback : UInt64) :
    FieldRule.read? ⟨name, .delay, some (.delay fallback.toNat)⟩ f.members =
      (f.delayOr name fallback).outcome.map fun delay => .delay delay.toNat := by
  simp only [FieldRule.read?, delayOr, number?, Fields.get?, Checked.outcome_bind]
  cases f.members.present? name with
  | none => rfl
  | some raw =>
    cases raw with
    | number value => simp [FieldKind.read?, Double.toNat_toUInt64]
    | _ => rfl

theorem read?_choiceOr {α : Type} [Choices α] (fallback : α) :
    FieldRule.read? ⟨name, .word (Choices.words α), some (.word (Choices.word fallback))⟩
        f.members =
      (f.choiceOr name fallback).outcome.map fun value => .word (Choices.word value) := by
  simp only [FieldRule.read?, choiceOr, Fields.get?]
  cases f.members.present? name with
  | none => rfl
  | some raw =>
    cases raw with
    | string word =>
      cases h : (Choices.ofWord? word : Option α) with
      | none =>
        have unlisted : word ∉ Choices.words α := by
          rw [← Choices.isSome_ofWord?, h]
          simp
        simp [FieldKind.read?, unlisted, h]
      | some value =>
        have listed : word ∈ Choices.words α := by
          rw [← Choices.isSome_ofWord?, h]
          rfl
        simp [FieldKind.read?, listed, h, Choices.word_of_ofWord? h]
    | _ => rfl

end Fields

/-! ## Nodes -/

/-- The schema with the words and the defaults of the library. -/
def NodeType.rules : NodeType → List FieldRule
  | .container => [
      ⟨"direction", .word (Choices.words Direction),
        some (.word (Choices.word Direction.vertical))⟩,
      ⟨"gap", .number, some (.number defaults.gap)⟩,
      ⟨"padding", .number, some (.number defaults.padding)⟩]
  | .card => [⟨"padding", .number, some (.number defaults.padding)⟩]
  | .form => []
  | .text => [
      ⟨"content", .text, none⟩,
      ⟨"variant", .word (Choices.words TextVariant), some (.word (Choices.word TextVariant.p))⟩]
  | .input => [
      ⟨"name", .text, some (.text defaults.inputName)⟩,
      ⟨"label", .text, some .unset⟩,
      ⟨"placeholder", .text, some .unset⟩,
      ⟨"kind", .word (Choices.words InputKind), some (.word (Choices.word InputKind.text))⟩,
      ⟨"showToggle", .truth, some (.truth true)⟩]
  | .button => [
      ⟨"text", .text, none⟩,
      ⟨"variant", .word (Choices.words ButtonVariant),
        some (.word (Choices.word ButtonVariant.primary))⟩,
      ⟨"debounceMs", .delay, some (.delay defaults.debounceMs.toNat)⟩]
  | .image => [
      ⟨"src", .text, none⟩,
      ⟨"alt", .text, some (.text "")⟩,
      ⟨"width", .number, some .unset⟩,
      ⟨"height", .number, some .unset⟩,
      ⟨"radius", .number, some (.number defaults.imageRadius)⟩]

/-- The documented words and defaults are those of the library. -/
theorem NodeType.schema_eq_rules (type : NodeType) : type.schema = type.rules := by
  cases type <;> rfl

/-- The type of a leaf is none of a group. -/
theorem Leaf.isGroup_type (leaf : Leaf) : leaf.type.isGroup = false := by
  cases leaf <;> rfl

/-- The type of a group is one of a group. -/
theorem Group.isGroup_type (group : Group) : group.type.isGroup = true := by
  cases group <;> rfl

/-- Members are admitted by one type only. -/
theorem NodeType.Admits.unique {a b : NodeType} {members : Members} (ha : a.Admits members)
    (hb : b.Admits members) : a = b := by
  have same := ha.type_eq.symm.trans hb.type_eq
  rwa [Option.some.injEq, Json.string.injEq, Choices.word_inj] at same

namespace Node

/-- Leaves and groups differ in type. -/
theorem leaf_type_ne_group_type (leaf : Leaf) (group : Group) (children : List Node) :
    (Node.leaf leaf).type ≠ (Node.group group children).type := by
  intro same
  have isGroup := group.isGroup_type
  rw [show group.type = leaf.type from same.symm, leaf.isGroup_type] at isGroup
  cases isGroup

attribute [local simp] Option.bind_eq_some_iff ShowsFields List.lookup_cons Node.type Group.type
  Leaf.type Node.id Group.id Leaf.id Node.fields Group.fields Leaf.fields Node.children
  NodeType.isGroup Fields.read?_string? Fields.read?_string Fields.read?_stringOr
  Fields.read?_boolOr Fields.read?_number? Fields.read?_numberOr Fields.read?_delayOr
  Fields.read?_choiceOr FieldValue.ofOption_text_inj FieldValue.ofOption_number_inj
  Choices.word_inj UInt64.toNat_inj

/-- A node of known type comes out with the fields that the rules of the type read, and with the
children if it is a group. -/
theorem outcome_checkType_iff {f : Fields} {id : String} {children : Checked (List Node)}
    {type : NodeType} {node : Node} :
    (checkType f id children type).outcome = some node ↔
      node.type = type ∧ node.id = id ∧ ShowsFields type.schema f.members node.fields ∧
        (type.isGroup = true → children.outcome = some node.children) := by
  rw [NodeType.schema_eq_rules]
  cases type with
  | container =>
    rcases node with (_ | _ | _ | _) | ⟨_ | _ | _, _⟩ <;>
      simp [checkType, NodeType.rules]
    constructor
    · rintro ⟨direction, hd, gap, hg, padding, hp, hc, rfl⟩
      exact ⟨rfl, ⟨hd, hg, hp⟩, hc⟩
    · rintro ⟨rfl, ⟨hd, hg, hp⟩, hc⟩
      exact ⟨_, hd, _, hg, _, hp, hc, rfl⟩
  | card =>
    rcases node with (_ | _ | _ | _) | ⟨_ | _ | _, _⟩ <;>
      simp [checkType, NodeType.rules]
    constructor
    · rintro ⟨hc, padding, hp, rfl⟩
      exact ⟨rfl, hp, hc⟩
    · rintro ⟨rfl, hp, hc⟩
      exact ⟨hc, _, hp, rfl⟩
  | form =>
    rcases node with (_ | _ | _ | _) | ⟨_ | _ | _, _⟩ <;>
      simp [checkType, NodeType.rules]
    constructor
    · rintro ⟨hc, rfl⟩
      exact ⟨rfl, hc⟩
    · rintro ⟨rfl, hc⟩
      exact ⟨hc, rfl⟩
  | text =>
    rcases node with (_ | _ | _ | _) | ⟨_ | _ | _, _⟩ <;>
      simp [checkType, NodeType.rules]
    constructor
    · rintro ⟨content, ht, variant, hv, rfl⟩
      exact ⟨rfl, ht, hv⟩
    · rintro ⟨rfl, ht, hv⟩
      exact ⟨_, ht, _, hv, rfl⟩
  | input =>
    rcases node with (_ | _ | _ | _) | ⟨_ | _ | _, _⟩ <;>
      simp [checkType, NodeType.rules, -Bool.exists_bool]
    constructor
    · rintro ⟨name, hn, label, hl, placeholder, hp, kind, hk, toggle, ht, rfl⟩
      exact ⟨rfl, hn, hl, hp, hk, ht⟩
    · rintro ⟨rfl, hn, hl, hp, hk, ht⟩
      exact ⟨_, hn, _, hl, _, hp, _, hk, _, ht, rfl⟩
  | button =>
    rcases node with (_ | _ | _ | _) | ⟨_ | _ | _, _⟩ <;>
      simp [checkType, NodeType.rules]
    constructor
    · rintro ⟨text, ht, variant, hv, delay, hd, rfl⟩
      exact ⟨rfl, ht, hv, hd⟩
    · rintro ⟨rfl, ht, hv, hd⟩
      exact ⟨_, ht, _, hv, _, hd, rfl⟩
  | image =>
    rcases node with (_ | _ | _ | _) | ⟨_ | _ | _, _⟩ <;>
      simp [checkType, NodeType.rules]
    constructor
    · rintro ⟨src, hs, alt, ha, width, hw, height, hh, radius, hr, rfl⟩
      exact ⟨rfl, hs, ha, hw, hh, hr⟩
    · rintro ⟨rfl, hs, ha, hw, hh, hr⟩
      exact ⟨_, hs, _, ha, _, hw, _, hh, _, hr, rfl⟩

/-- A node of known type comes out if the schema admits its fields and its children come out. -/
theorem isSome_outcome_checkType {f : Fields} {id : String} {children : Checked (List Node)}
    {type : NodeType} (fields : ∀ rule ∈ type.schema, rule.Admits f.members)
    (children_some : type.isGroup = true → children.outcome.isSome) :
    (checkType f id children type).outcome.isSome := by
  simp only [← FieldRule.isSome_read?, NodeType.schema_eq_rules, Option.isSome_iff_exists]
    at fields children_some ⊢
  cases type <;> simp [NodeType.rules, -Bool.exists_bool] at fields children_some <;>
    simp [checkType, -Bool.exists_bool] <;> tauto

/-! ### Members -/

/-- The members of a node come out exactly as a node that shows them, with the children that come
out if it is a group. -/
theorem outcome_checkMembers {options : ValidationOptions} {f : Fields}
    {children : Checked (List Node)} {o : Option Node}
    (h : (checkMembers options f children).outcome = some o) :
    ∃ node, o = some node ∧ Shows options.ids f.path f.members node ∧
      (node.type.isGroup = true → children.outcome = some node.children) := by
  unfold checkMembers at h
  split at h
  · simp at h
  · next word type_eq =>
    simp only [Checked.outcome_bind, Option.bind_eq_some_iff] at h
    obtain ⟨id, id_eq, h⟩ := h
    split at h
    · next type word_eq =>
      simp only [Checked.outcome_bind, Option.bind_eq_some_iff, Checked.outcome_pure,
        Option.some.injEq] at h
      obtain ⟨node, node_eq, rfl⟩ := h
      obtain ⟨rfl, rfl, fields, children_eq⟩ := outcome_checkType_iff.1 node_eq
      refine ⟨node, rfl, ⟨?_, ?_, fields⟩, children_eq⟩
      · rw [Choices.word_of_ofWord? word_eq]
        exact type_eq
      · rw [idRule, Fields.read?_stringOr, id_eq]
        rfl
    · simp at h
  · simp [Fields.wrongType] at h

/-- The members of a node of an admitted type come out if its children do. -/
theorem isSome_outcome_checkMembers {options : ValidationOptions} {f : Fields}
    {children : Checked (List Node)} {type : NodeType} (admits : type.Admits f.members)
    (children_some : type.isGroup = true → children.outcome.isSome) :
    (checkMembers options f children).outcome.isSome := by
  have type_eq : f.get? "type" = some (.string (Choices.word type)) := admits.type_eq
  have id_some : (f.stringOr "id" (options.ids f.path)).outcome.isSome := by
    have admitted := FieldRule.isSome_read?.2
      (show (idRule (options.ids f.path)).Admits f.members from admits.id)
    rw [idRule, Fields.read?_stringOr, Option.isSome_map] at admitted
    exact admitted
  obtain ⟨id, id_eq⟩ := Option.isSome_iff_exists.1 id_some
  have node_some : (checkType f id children type).outcome.isSome :=
    isSome_outcome_checkType admits.fields children_some
  obtain ⟨node, node_eq⟩ := Option.isSome_iff_exists.1 node_some
  simp [checkMembers, type_eq, id_eq, node_eq]

/-- A node has all the fields of its type. -/
theorem isSome_lookup_fields {node : Node} {rule : FieldRule} (mem : rule ∈ node.type.schema) :
    (List.lookup rule.name node.fields).isSome := by
  have all : ∀ rule ∈ node.type.schema, (List.lookup rule.name node.fields).isSome := by
    rcases node with (_ | _ | _ | _) | ⟨_ | _ | _, _⟩ <;> simp [NodeType.schema]
  exact all rule mem

/-- Members that show a node are admitted. -/
theorem Shows.admits {ids : Path → String} {path : Path} {members : Members} {node : Node}
    (h : Shows ids path members node) : node.type.Admits members where
  type_eq := h.type
  id := by
    have admitted : (idRule (ids path)).Admits members := by
      rw [← FieldRule.isSome_read?, h.id]
      rfl
    exact admitted
  fields := by
    intro rule mem
    rw [← FieldRule.isSome_read?, h.fields rule mem]
    exact isSome_lookup_fields mem

/-! ### Children -/

/-- The children of an object are those of its member of that name. -/
theorem checkChildren_eq (options : ValidationOptions) (path : Path) (depth : Nat) :
    ∀ members : Members, checkChildren options path depth members =
      match members.present? "children" with
      | none => pure []
      | some raw => checkList options (path.key "children") depth raw
  | [] => rfl
  | (name, value) :: rest => by
    by_cases h : name = "children"
    · subst h
      rw [checkChildren, if_pos rfl, Members.present?, Members.get?_cons_self]
      cases value <;> rfl
    · rw [checkChildren, if_neg h, Members.present?_cons_of_ne h]
      exact checkChildren_eq options path depth rest

/-- Items that come out one by one come out as so many nodes, each as it would alone. -/
theorem outcome_checkItems {options : ValidationOptions} {path : Path} {depth : Nat}
    {P : Path → Json → Node → Prop} :
    ∀ {index : Nat} {items : List Json} {nodes : List Node},
      (∀ item ∈ items, ∀ {path : Path} {o : Option Node},
        (check options path depth item).outcome = some o → ∃ node, o = some node ∧ P path item node) →
      (checkItems options path depth index items).outcome = some nodes →
      nodes.length = items.length ∧
        ∀ (i : Nat) (hi : i < items.length) (hn : i < nodes.length),
          P (path.index (index + i)) items[i] nodes[i]
  | _, [], _, _, h => by
    simp only [checkItems, Checked.outcome_pure, Option.some.injEq] at h
    subst h
    simp
  | index, item :: rest, nodes, each, h => by
    simp only [checkItems, Checked.outcome_bind, Checked.outcome_pure, Option.bind_eq_some_iff,
      Option.some.injEq] at h
    obtain ⟨o, item_eq, later, rest_eq, rfl⟩ := h
    obtain ⟨node, rfl, first⟩ := each item (by simp) item_eq
    obtain ⟨length_eq, others⟩ :=
      outcome_checkItems (fun item h => each item (List.mem_cons_of_mem _ h)) rest_eq
    refine ⟨by simp [length_eq], ?_⟩
    rintro (_ | i) hi hn
    · exact first
    · have place : index + (i + 1) = index + 1 + i := by omega
      simpa [place] using others i (by simpa using hi) (by simpa using hn)

/-- Items come out together if each comes out alone. -/
theorem isSome_outcome_checkItems {options : ValidationOptions} {path : Path} {depth : Nat} :
    ∀ {index : Nat} {items : List Json},
      (∀ item ∈ items, ∀ path, (check options path depth item).outcome.isSome) →
      (checkItems options path depth index items).outcome.isSome
  | _, [], _ => rfl
  | index, item :: rest, each => by
    obtain ⟨o, item_eq⟩ := Option.isSome_iff_exists.1 (each item (by simp) (path.index index))
    have rest_some : (checkItems options path depth (index + 1) rest).outcome.isSome :=
      isSome_outcome_checkItems fun item h => each item (List.mem_cons_of_mem _ h)
    obtain ⟨later, rest_eq⟩ := Option.isSome_iff_exists.1 rest_some
    simp [checkItems, item_eq, rest_eq]

/-! ### Trees -/

/-- Nodes are looked at only down to the bound. -/
theorem check_of_lt {options : ValidationOptions} {path : Path} {depth : Nat}
    (h : options.maxDepth < depth) (raw : Json) :
    (check options path depth raw).outcome = none := by
  cases raw <;> simp [check, h]

/-- Nothing but an object comes out. -/
theorem outcome_check_of_not_object {options : ValidationOptions} {path : Path} {depth : Nat}
    {raw : Json} (h : ∀ members, raw ≠ .object members) :
    (check options path depth raw).outcome = none := by
  cases raw with
  | object members => exact absurd rfl (h members)
  | _ => by_cases deep : options.maxDepth < depth <;> simp [check, deep]

/-- Children that come out are those of an array, or there are none. -/
theorem outcome_checkChildren {options : ValidationOptions} {path : Path} {depth : Nat}
    {members : Members} {nodes : List Node}
    (h : (checkChildren options path depth members).outcome = some nodes) :
    ∃ items, ChildItems members items ∧
      (checkItems options (path.key "children") (depth + 1) 0 items).outcome = some nodes := by
  rw [checkChildren_eq] at h
  cases present : members.present? "children" with
  | none =>
    rw [present] at h
    exact ⟨[], .unset present, h⟩
  | some raw =>
    rw [present] at h
    cases raw with
    | array items => exact ⟨items, .array present, h⟩
    | null => exact absurd rfl (Members.present?_eq_some.1 present).2
    | _ => simp [checkList] at h

/-- The children of an object come out if its items do. -/
theorem outcome_checkChildren_of_items {options : ValidationOptions} {path : Path} {depth : Nat}
    {members : Members} {items : List Json} (h : ChildItems members items) :
    (checkChildren options path depth members).outcome =
      (checkItems options (path.key "children") (depth + 1) 0 items).outcome := by
  rw [checkChildren_eq]
  cases h with
  | unset unset =>
    rw [unset]
    rfl
  | array array =>
    rw [array]
    rfl

/-- A value that comes out as anything is well formed and comes out as its normal form. -/
theorem outcome_check {options : ValidationOptions} (raw : Json) :
    ∀ {path : Path} {depth : Nat} {o : Option Node},
      (check options path depth raw).outcome = some o →
      ∃ node, o = some node ∧ WellFormed options.maxDepth depth raw ∧
        NormalForm options.ids path raw node := by
  induction raw using Json.childrenInduction with
  | step raw ih =>
    intro path depth o h
    by_cases object : ∃ members, raw = .object members
    · obtain ⟨members, rfl⟩ := object
      by_cases deep : options.maxDepth < depth
      · simp [check_of_lt deep] at h
      rw [check, if_neg deep] at h
      obtain ⟨node, rfl, shown, children_eq⟩ := outcome_checkMembers h
      have within : depth ≤ options.maxDepth := Nat.le_of_not_lt deep
      refine ⟨node, rfl, ?_⟩
      cases node with
      | leaf leaf =>
        exact ⟨.leaf within leaf.isGroup_type shown.admits, .leaf shown⟩
      | group group children =>
        obtain ⟨items, items_eq, come_out⟩ :=
          outcome_checkChildren (children_eq group.isGroup_type)
        have each : ∀ item ∈ items, ∀ {path : Path} {o : Option Node},
            (check options path (depth + 1) item).outcome = some o →
            ∃ node, o = some node ∧ WellFormed options.maxDepth (depth + 1) item ∧
              NormalForm options.ids path item node := by
          intro item mem
          cases items_eq with
          | unset _ => simp at mem
          | array array => exact ih members items rfl array item mem
        obtain ⟨length_eq, nodes⟩ := outcome_checkItems each come_out
        refine ⟨.group within group.isGroup_type shown.admits items_eq ?_,
          .group shown items_eq length_eq ?_⟩
        · intro item mem
          obtain ⟨i, hi, rfl⟩ := List.getElem_of_mem mem
          exact (nodes i hi (by omega)).1
        · intro i hi hc
          have node_eq := (nodes i hi hc).2
          rwa [Nat.zero_add] at node_eq
    · rw [outcome_check_of_not_object (by simpa using object)] at h
      simp at h

/-- A well-formed value comes out. -/
theorem isSome_outcome_check {options : ValidationOptions} {depth : Nat} {raw : Json}
    (h : WellFormed options.maxDepth depth raw) :
    ∀ path, (check options path depth raw).outcome.isSome := by
  induction h with
  | leaf within isLeaf admits =>
    intro path
    rw [check, if_neg (Nat.not_lt.2 within)]
    exact isSome_outcome_checkMembers admits fun isGroup => nomatch isLeaf.symm.trans isGroup
  | group within isGroup admits children each ih =>
    intro path
    rw [check, if_neg (Nat.not_lt.2 within)]
    refine isSome_outcome_checkMembers admits fun _ => ?_
    rw [outcome_checkChildren_of_items children]
    exact isSome_outcome_checkItems ih

/-- A well-formed value comes out as a node that is its normal form. -/
theorem exists_outcome_check {options : ValidationOptions} {depth : Nat} {raw : Json}
    (h : WellFormed options.maxDepth depth raw) (path : Path) :
    ∃ node, (check options path depth raw).outcome = some (some node) ∧
      NormalForm options.ids path raw node := by
  obtain ⟨o, come_out⟩ := Option.isSome_iff_exists.1 (isSome_outcome_check h path)
  obtain ⟨node, rfl, -, normal⟩ := outcome_check raw come_out
  exact ⟨node, come_out, normal⟩

/-! ### Normal forms -/

/-- Nodes that the same members show have the same type. -/
theorem Shows.type_unique {ids : Path → String} {path : Path} {members : Members} {a b : Node}
    (ha : Shows ids path members a) (hb : Shows ids path members b) : a.type = b.type :=
  ha.admits.unique hb.admits

/-- Nodes that the same members show are alike down to their children. -/
theorem Shows.unique {ids : Path → String} {path : Path} {members : Members} {a b : Node}
    (ha : Shows ids path members a) (hb : Shows ids path members b)
    (children_eq : a.children = b.children) : a = b := by
  have type_eq : b.type = a.type := hb.type_unique ha
  have id_eq : b.id = a.id := by simpa using hb.id.symm.trans ha.id
  -- both are what the check of these members gives
  have a_eq : (checkType ⟨members, path⟩ a.id (pure a.children) a.type).outcome = some a :=
    outcome_checkType_iff.2 ⟨rfl, rfl, ha.fields, fun _ => rfl⟩
  have b_eq : (checkType ⟨members, path⟩ a.id (pure a.children) a.type).outcome = some b := by
    refine outcome_checkType_iff.2 ⟨type_eq, id_eq, type_eq ▸ hb.fields, fun _ => ?_⟩
    rw [children_eq]
    rfl
  exact Option.some.inj (a_eq.symm.trans b_eq)

end Node

/-- An object has one list of children. -/
theorem ChildItems.unique {members : Members} {xs ys : List Json}
    (hx : ChildItems members xs) (hy : ChildItems members ys) : xs = ys := by
  cases hx with
  | unset hx =>
    cases hy with
    | unset _ => rfl
    | array hy => simp [hx] at hy
  | array hx =>
    cases hy with
    | unset hy => simp [hx] at hy
    | array hy => simpa [hx] using hy

namespace Node

/-- A raw value stands for one node only. -/
theorem NormalForm.unique {ids : Path → String} {path : Path} {raw : Json} {a b : Node}
    (ha : NormalForm ids path raw a) (hb : NormalForm ids path raw b) : a = b := by
  induction ha generalizing b with
  | leaf shown =>
    cases hb with
    | leaf shown' => exact shown.unique shown' rfl
    | group shown' => exact absurd (shown.type_unique shown') (leaf_type_ne_group_type _ _ _)
  | group shown items_eq length_eq _ ih =>
    cases hb with
    | leaf shown' => exact absurd (shown'.type_unique shown) (leaf_type_ne_group_type _ _ _)
    | group shown' items_eq' length_eq' each' =>
      obtain rfl := items_eq.unique items_eq'
      refine shown.unique shown' (List.ext_getElem (length_eq.trans length_eq'.symm) ?_)
      intro i hi hi'
      exact ih i (length_eq ▸ hi) hi (each' i (length_eq ▸ hi) hi')

end Node

/-! ## Palettes -/

namespace Palette

attribute [local simp] Option.bind_eq_some_iff ShowsFields List.lookup_cons Palette.fields
  Palette.schema Fields.read?_string? FieldValue.ofOption_text_inj

/-- A palette comes out with the colours that the rules read. -/
theorem outcome_check_iff {f : Fields} {palette : Palette} :
    (check f).outcome = some palette ↔ ShowsFields schema f.members palette.fields := by
  obtain ⟨primary, secondary, background, foreground⟩ := palette
  simp [check]

/-- A palette comes out if and only if its colours are admitted. -/
theorem isSome_outcome_check {f : Fields} :
    (check f).outcome.isSome ↔ ∀ rule ∈ schema, rule.Admits f.members := by
  simp only [← FieldRule.isSome_read?, Option.isSome_iff_exists]
  simp [check]

/-- The palette of a document comes out if and only if it is well formed, as its normal form. -/
theorem outcome_checkField_iff {f : Fields} {o : Option Palette} :
    (checkField f).outcome = some o ↔
      WellFormed (f.get? "palette") ∧ NormalForm (f.get? "palette") o := by
  unfold checkField
  cases present : f.get? "palette" with
  | none =>
    constructor
    · rintro ⟨⟩
      exact ⟨.unset, .unset⟩
    · rintro ⟨-, ⟨⟩⟩
      rfl
  | some raw =>
    cases raw with
    | object members =>
      simp only [Checked.outcome_bind, Checked.outcome_pure, Option.bind_eq_some_iff,
        Option.some.injEq]
      constructor
      · rintro ⟨palette, come_out, rfl⟩
        have admits := isSome_outcome_check.1 (Option.isSome_iff_exists.2 ⟨palette, come_out⟩)
        exact ⟨.colours admits, .colours (outcome_check_iff.1 come_out)⟩
      · rintro ⟨-, ⟨⟩ | ⟨shown⟩⟩
        exact ⟨_, outcome_check_iff.2 shown, rfl⟩
    | _ =>
      constructor
      · rintro ⟨⟩
      · rintro ⟨⟨⟩, -⟩

/-- A well-formed palette comes out. -/
theorem isSome_outcome_checkField {f : Fields} (h : WellFormed (f.get? "palette")) :
    (checkField f).outcome.isSome := by
  unfold checkField
  generalize f.get? "palette" = raw at h
  cases h with
  | unset => rfl
  | colours admits =>
    obtain ⟨palette, come_out⟩ := Option.isSome_iff_exists.1 <|
      (isSome_outcome_check (f := ⟨_, f.place "palette"⟩)).2 admits
    simp [come_out]

/-- A raw palette stands for one palette only. -/
theorem NormalForm.unique {raw : Option Json} {a b : Option Palette} (ha : NormalForm raw a)
    (hb : NormalForm raw b) : a = b := by
  cases ha with
  | unset =>
    cases hb
    rfl
  | @colours members _ shown =>
    cases hb with
    | colours shown' =>
      have a_eq := (outcome_check_iff (f := ⟨members, .top⟩)).2 shown
      have b_eq := (outcome_check_iff (f := ⟨members, .top⟩)).2 shown'
      exact a_eq.symm.trans b_eq

end Palette

/-! ## Documents -/

namespace Document

/-- The version comes out if and only if it is the one of the language. -/
theorem outcome_checkVersion_iff {f : Fields} :
    (checkVersion f).outcome = some () ↔ f.get? "version" = some (.string "0.1") := by
  unfold checkVersion
  cases present : f.get? "version" with
  | none => simp
  | some raw =>
    cases raw with
    | string version =>
      by_cases current : version = languageVersion
      · subst current
        simp [languageVersion]
      · have other : version ≠ "0.1" := current
        simp [current, other]
    | _ => simp

/-- A document comes out if and only if its version, its palette and its root do. -/
theorem outcome_check_iff {options : ValidationOptions} {members : Members} {o : Option Document} :
    (check options (.object members)).outcome = some o ↔
      members.present? "version" = some (.string "0.1") ∧
        ∃ palette, (Palette.checkField ⟨members, .top⟩).outcome = some palette ∧
          ∃ root, (checkRoot options ⟨members, .top⟩).outcome = some root ∧
            root.map (fun root => ⟨"0.1", palette, root⟩) = o := by
  have version := outcome_checkVersion_iff (f := ⟨members, .top⟩)
  simp only [check, Checked.outcome_bind, Option.bind_eq_some_iff, Checked.outcome_pure,
    Option.some.injEq]
  constructor
  · rintro ⟨_, current, rest⟩
    exact ⟨version.1 current, rest⟩
  · rintro ⟨current, rest⟩
    exact ⟨(), version.2 current, rest⟩

/-- The validator accepts well-formed values only and gives their normal form. -/
theorem of_validate {options : ValidationOptions} {raw : Json} {d : Document}
    (h : validate options raw = .ok d) :
    WellFormed options.maxDepth raw ∧ NormalForm options.ids raw d := by
  rw [validate, Checked.result_eq_ok_iff] at h
  cases raw with
  | object members =>
    obtain ⟨version, palette, palette_eq, root, root_eq, document_eq⟩ := outcome_check_iff.1 h
    obtain ⟨palette_wellFormed, palette_normal⟩ := Palette.outcome_checkField_iff.1 palette_eq
    unfold checkRoot at root_eq
    cases present : Fields.get? ⟨members, .top⟩ "root" with
    | none => simp [present] at root_eq
    | some raw =>
      rw [present] at root_eq
      obtain ⟨node, rfl, wellFormed, normal⟩ := Node.outcome_check raw root_eq
      cases document_eq
      exact ⟨.intro version palette_wellFormed present wellFormed,
        .intro palette_normal present normal⟩
  | _ => simp [check] at h

/-- The validator accepts well-formed values. -/
theorem exists_validate {options : ValidationOptions} {raw : Json}
    (h : WellFormed options.maxDepth raw) : ∃ d, validate options raw = .ok d := by
  simp only [validate, Checked.result_eq_ok_iff]
  cases h with
  | @intro members root version palette_wellFormed root_eq root_wellFormed =>
    obtain ⟨palette, palette_eq⟩ := Option.isSome_iff_exists.1 <|
      Palette.isSome_outcome_checkField (f := ⟨members, .top⟩) palette_wellFormed
    obtain ⟨node, node_eq, -⟩ :=
      Node.exists_outcome_check root_wellFormed (Fields.place ⟨members, .top⟩ "root")
    have come_out : (checkRoot options ⟨members, .top⟩).outcome = some (some node) := by
      have present : Fields.get? ⟨members, .top⟩ "root" = some root := root_eq
      rw [checkRoot, present]
      exact node_eq
    exact ⟨_, outcome_check_iff.2 ⟨version, palette, palette_eq, some node, come_out, rfl⟩⟩

/-- A raw value stands for one document only. -/
theorem NormalForm.unique {ids : Path → String} {raw : Json} {a b : Document}
    (ha : NormalForm ids raw a) (hb : NormalForm ids raw b) : a = b := by
  cases ha with
  | intro palette_normal root_eq root_normal =>
    cases hb with
    | intro palette_normal' root_eq' root_normal' =>
      obtain rfl := palette_normal.unique palette_normal'
      obtain rfl := Option.some.inj (root_eq.symm.trans root_eq')
      obtain rfl := root_normal.unique root_normal'
      rfl

/-- The validator gives a document exactly for the well-formed values that it is the normal form
of. -/
theorem validate_eq_ok_iff {options : ValidationOptions} {raw : Json} {d : Document} :
    validate options raw = .ok d ↔
      WellFormed options.maxDepth raw ∧ NormalForm options.ids raw d := by
  refine ⟨of_validate, ?_⟩
  rintro ⟨wellFormed, normal⟩
  obtain ⟨d', validated⟩ := exists_validate wellFormed
  rwa [normal.unique (of_validate validated).2]

/-- The validator accepts exactly the documented schema, whatever gives the ids, and what it gives
is the one document in normal form. -/
theorem validate_accepts_schema (options : ValidationOptions) (raw : Json) :
    ((∃ d, validate options raw = .ok d) ↔ WellFormed options.maxDepth raw) ∧
      ∀ d, validate options raw = .ok d ↔
        WellFormed options.maxDepth raw ∧ NormalForm options.ids raw d := by
  refine ⟨⟨?_, exists_validate⟩, fun d => validate_eq_ok_iff⟩
  rintro ⟨d, validated⟩
  exact (of_validate validated).1

end Document

end Wireframe
