import Wireframe.Proofs.Document.Faults
import Wireframe.Proofs.Screen.Key
import Wireframe.Screen.Preview

/-!
# Nodes drawn on their own

A preview checks each node without its children, under its key for an id if it has none.
`Element.DrawnAlone` lists all that can become of a node : what no type admits is a placeholder,
everything else shows what its members say. On a valid document a preview is the drawing of the
document (`Element.ofJson_eq_ofDocument`), as long as no node has an id of null : such an id counts
as given and is then drawn from the id source.
-/

namespace Wireframe

/-! ## Members of a node on its own -/

namespace Element

variable {ids : Key → String} {key : Key} {members : Members}

/-- The members of a node as it is drawn : without children, and with its key for an id if it has
none. -/
def alone (key : Key) (members : Members) : Members :=
  let alone := members.without "children"
  if (alone.get? "id").isSome then alone else alone.put "id" (.string key.text)

theorem get?_alone_id :
    (alone key members).get? "id" = some ((members.get? "id").getD (.string key.text)) := by
  have same : (members.without "children").get? "id" = members.get? "id" := by
    simp [Members.get?_without]
  unfold alone
  cases given : members.get? "id" with
  | none => simp [same, given, Members.get?_put]
  | some id => simp [same, given]

theorem get?_alone_of_ne {name : String} (other : name ≠ "id") :
    (alone key members).get? name = (members.without "children").get? name := by
  unfold alone
  dsimp only
  split
  · rfl
  · rw [Members.get?_put, if_neg other]

theorem get?_alone_children : (alone key members).get? "children" = none := by
  simp [get?_alone_of_ne, Members.get?_without]

/-- Nothing but the id and the children is different about a node on its own. -/
theorem present?_alone {name : String} (notId : name ≠ "id") (notChildren : name ≠ "children") :
    (alone key members).present? name = members.present? name := by
  simp only [Members.present?, get?_alone_of_ne notId, Members.get?_without, if_neg notChildren]

theorem read?_alone {rule : FieldRule} (notId : rule.name ≠ "id")
    (notChildren : rule.name ≠ "children") :
    rule.read? (alone key members) = rule.read? members := by
  simp only [FieldRule.read?, present?_alone notId notChildren]

/-- An id is admitted or not whether the node stands on its own or in its place. -/
theorem admits_id_alone {fallback : String} :
    (idRule fallback).Admits (alone key members) ↔ (idRule fallback).Admits members := by
  simp only [FieldRule.Admits, idRule, Members.present?, get?_alone_id]
  cases members.get? "id" with
  | none => simpa using FieldKind.Admits.text key.text
  | some raw => rfl

/-- A type admits the members of a node on its own if it admits those of the node. -/
theorem admits_alone {type : NodeType} :
    type.Admits (alone key members) ↔ type.Admits members := by
  have type_eq : (alone key members).present? "type" = members.present? "type" :=
    present?_alone (by decide) (by decide)
  have field {rule : FieldRule} (mem : rule ∈ type.schema) :
      rule.Admits (alone key members) ↔ rule.Admits members := by
    obtain ⟨notId, notChildren⟩ := NodeType.name_of_mem_schema mem
    rw [← FieldRule.isSome_read?, ← FieldRule.isSome_read?, read?_alone notId notChildren]
  constructor
  · intro admits
    exact ⟨type_eq ▸ admits.type_eq, admits_id_alone.1 admits.id,
      fun rule mem => (field mem).1 (admits.fields rule mem)⟩
  · intro admits
    exact ⟨type_eq ▸ admits.type_eq, admits_id_alone.2 admits.id,
      fun rule mem => (field mem).2 (admits.fields rule mem)⟩

/-- A node on its own shows what it shows in its place, where its key is the id that it would get
there and its id is not null. -/
theorem shows_alone {ids : Path → String} {path : Path} {node : Node}
    (shown : node.Shows Path.nodeId path members) (isAt : path.IsAt key)
    (given : members.get? "id" ≠ some .null) : node.Shows ids .top (alone key members) where
  type := by
    rw [present?_alone (by decide) (by decide)]
    exact shown.type
  id := by
    have id_eq := shown.id
    rw [isAt.nodeId_eq] at id_eq
    simp only [FieldRule.read?, idRule, Members.present?, get?_alone_id] at id_eq ⊢
    cases id : members.get? "id" with
    | none => simpa [id, FieldKind.read?] using id_eq
    | some raw =>
      cases raw with
      | null => exact absurd id given
      | _ => simpa [id] using id_eq
  fields := by
    intro rule mem
    obtain ⟨notId, notChildren⟩ := NodeType.name_of_mem_schema mem
    rw [read?_alone notId notChildren]
    exact shown.fields rule mem

/-- A node on its own is checked as one without children. -/
theorem validate_alone (options : ValidationOptions) :
    Node.validate options (.object (alone key members)) =
      (Node.checkAlone options ⟨alone key members, .top⟩).result := by
  have childless : (alone key members).present? "children" = none := by
    rw [Members.present?, get?_alone_children]
  rw [Node.validate, Node.check_object (Nat.zero_le _), Node.checkChildren_eq, childless]
  rfl

/-- A node on its own is valid exactly if a type admits it, and then shows what its members say. -/
theorem validate_alone_cases (options : ValidationOptions) (key : Key) (members : Members) :
    (∃ node : Node, Node.validate options (.object (alone key members)) = .ok node ∧
        node.Shows options.ids .top (alone key members) ∧ node.children = []) ∨
      ((∀ type : NodeType, ¬ type.Admits members) ∧
        ∃ issues, Node.validate options (.object (alone key members)) = .error issues) := by
  rw [validate_alone]
  have admitted : (Node.checkAlone options ⟨alone key members, .top⟩).issues = [] ↔
      ∃ type : NodeType, type.Admits members := by
    simp only [Node.issues_checkAlone_eq_nil_iff, admits_alone]
  by_cases fine : (Node.checkAlone options ⟨alone key members, .top⟩).issues = []
  · obtain ⟨o, come_out⟩ := Option.isSome_iff_exists.1 (Checked.isSome_outcome_iff.2 fine)
    obtain ⟨node, rfl, shown, children⟩ := Node.outcome_checkMembers come_out
    refine .inl ⟨node, Checked.result_eq_ok_iff.2 come_out, shown, ?_⟩
    cases node with
    | leaf l => rfl
    | group g children' => exact (Option.some.inj (children g.isGroup_type)).symm
  · refine .inr ⟨fun type admits => fine (admitted.2 ⟨type, admits⟩),
      (Node.checkAlone options ⟨alone key members, .top⟩).issues, ?_⟩
    unfold Checked.result
    split
    · next issues_eq => exact absurd issues_eq fine
    · rfl

/-! ## What is drawn -/

/-- All that can be drawn for a node at a key with these members and, if its children are a list,
these drawn children. -/
inductive DrawnAlone (ids : Key → String) (key : Key) (members : Members) :
    Option (List Element) → Element → Prop
  | refused (drawn : Option (List Element)) (p : Placeholder)
    (none_admits : ∀ type : NodeType, ¬ type.Admits members) :
    DrawnAlone ids key members drawn (.placeholder key p)
  | leaf (drawn : Option (List Element)) {l : Leaf}
    (shown : Node.Shows (fun _ => ids key) .top (alone key members) (.leaf l)) :
    DrawnAlone ids key members drawn (.leaf key (drawLeaf none key l))
  | group (children : List Element) {g : Group}
    (shown : Node.Shows (fun _ => ids key) .top (alone key members) (.group g [])) :
    DrawnAlone ids key members (some children) (.group key g children)
  | unlisted (p : Placeholder) {g : Group}
    (shown : Node.Shows (fun _ => ids key) .top (alone key members) (.group g [])) :
    DrawnAlone ids key members none (.placeholder key p)

/-- The type of a node is read the same way where the node is drawn. -/
theorem ofWord?_typeName :
    Choices.ofWord? (((members.get? "type").bind Json.asString?).getD "") =
      members.nodeType? := by
  unfold Members.nodeType? Members.present?
  cases members.get? "type" with
  | none => rfl
  | some raw => cases raw <;> rfl

/-- One of these things is drawn. -/
theorem ofMembers_spec (ids : Key → String) (key : Key) (members : Members)
    (drawn : Option (List Element)) :
    DrawnAlone ids key members drawn (ofMembers ids key members drawn) := by
  unfold ofMembers
  simp only [ofWord?_typeName]
  cases named : members.nodeType? with
  | none =>
    refine .refused drawn _ fun type admits => ?_
    rw [admits.nodeType?_eq] at named
    cases named
  | some type =>
    dsimp only
    rcases validate_alone_cases ⟨fun _ => ids key, defaultMaxDepth⟩ key members with
      ⟨node, valid, shown, childless⟩ | ⟨none_admits, issues, invalid⟩
    · dsimp only [alone] at valid
      rw [valid]
      cases node with
      | leaf l => exact .leaf drawn shown
      | group g children =>
        obtain rfl : children = [] := childless
        cases drawn with
        | none => exact .unlisted _ shown
        | some children => exact .group children shown
    · dsimp only [alone] at invalid
      rw [invalid]
      exact .refused drawn _ none_admits

/-- What shows a leaf is drawn as that leaf. -/
theorem ofMembers_of_leaf {l : Leaf}
    (shown : Node.Shows (fun _ => ids key) .top (alone key members) (.leaf l))
    (drawn : Option (List Element)) :
    ofMembers ids key members drawn = leaf key (drawLeaf none key l) := by
  have spec := ofMembers_spec ids key members drawn
  generalize ofMembers ids key members drawn = element at spec
  cases spec with
  | refused _ _ none_admits => exact absurd (admits_alone.1 shown.admits) (none_admits _)
  | leaf _ shown' =>
    obtain ⟨⟩ := shown'.unique shown rfl
    rfl
  | group _ shown' | unlisted _ shown' =>
    exact absurd (shown.type_unique shown') (Node.leaf_type_ne_group_type _ _ _)

/-- What shows a group with a list of children is drawn as that group with these children. -/
theorem ofMembers_of_group {g : Group}
    (shown : Node.Shows (fun _ => ids key) .top (alone key members) (.group g []))
    (children : List Element) :
    ofMembers ids key members (some children) = group key g children := by
  have spec := ofMembers_spec ids key members (some children)
  generalize ofMembers ids key members (some children) = element at spec
  cases spec with
  | refused _ _ none_admits => exact absurd (admits_alone.1 shown.admits) (none_admits _)
  | leaf _ shown' => exact absurd (shown'.type_unique shown) (Node.leaf_type_ne_group_type _ _ _)
  | group _ shown' =>
    obtain ⟨⟩ := shown'.unique shown rfl
    rfl

/-- The drawn children of an object are those of its member of that name. -/
theorem ofChildren_eq (ids : Key → String) (key : Key) (depth : Nat) :
    ∀ members : Members, ofChildren ids key depth members =
      match members.present? "children" with
      | none => some []
      | some raw => ofList ids key depth raw
  | [] => rfl
  | (name, value) :: rest => by
    by_cases h : name = "children"
    · subst h
      rw [ofChildren, if_pos rfl, Members.present?, Members.get?_cons_self]
      cases value <;> rfl
    · rw [ofChildren, if_neg h, Members.present?_cons_of_ne h]
      exact ofChildren_eq ids key depth rest

/-- The children of an object are drawn if they are a list. -/
theorem ofChildren_of_items {items : List Json} (children : ChildItems members items)
    (depth : Nat) : ofChildren ids key depth members = some (ofItems ids key (depth + 1) 0 items) := by
  rw [ofChildren_eq]
  cases children with
  | unset unset =>
    rw [unset]
    rfl
  | array array =>
    rw [array]
    rfl

/-- A raw node that is not nested too deep is drawn by its members. -/
theorem ofRaw_object {depth : Nat} (within : depth ≤ defaultMaxDepth) :
    ofRaw ids key depth (.object members) =
      ofMembers ids key members (ofChildren ids key depth members) := by
  rw [ofRaw, if_neg (Nat.not_lt.2 within)]

/-- Items are drawn as nodes if each of them is. -/
theorem ofItems_eq_ofNodes {depth : Nat} {parent : Key} : ∀ {index : Nat} {items : List Json}
    {nodes : List Node}, nodes.length = items.length →
    (∀ (i : Nat) (hi : i < items.length) (hn : i < nodes.length),
      ofRaw ids (parent.child (index + i)) depth items[i] =
        ofNode none (parent.child (index + i)) nodes[i]) →
    ofItems ids parent depth index items = ofNodes none parent index nodes
  | _, [], [], _, _ => rfl
  | _, [], _ :: _, length_eq, _ => by simp at length_eq
  | _, _ :: _, [], length_eq, _ => by simp at length_eq
  | index, item :: items, node :: nodes, length_eq, each => by
    have first := each 0 (by simp) (by simp)
    have others : ofItems ids parent depth (index + 1) items =
        ofNodes none parent (index + 1) nodes := by
      refine ofItems_eq_ofNodes (by simpa using length_eq) fun i hi hn => ?_
      rw [show index + 1 + i = index + (i + 1) by omega]
      exact each (i + 1) (by simpa using hi) (by simpa using hn)
    rw [ofItems, ofNodes, others]
    exact congrArg (· :: _) first

end Element

/-! ## Agreement on valid documents -/

/-- The raw nodes of a raw tree : the value itself, and the children of every group. -/
inductive Json.RawNode (root : Json) : Json → Prop
  | self : RawNode root root
  | child {members : Members} {items : List Json} {item : Json}
    (parent : RawNode root (.object members)) (group : members.NameGroup)
    (children : ChildItems members items) (mem : item ∈ items) : RawNode root item

/-- Whether no raw node of a tree has an id of null. -/
def Json.NoNullIds (root : Json) : Prop :=
  ∀ members, root.RawNode (.object members) → Members.get? members "id" ≠ some .null

namespace Json

/-- The nodes below a child are nodes below its parent. -/
theorem RawNode.of_child {members : Members} {items : List Json} {item raw : Json}
    (group : members.NameGroup) (children : ChildItems members items) (mem : item ∈ items)
    (node : item.RawNode raw) : (Json.object members).RawNode raw := by
  induction node with
  | self => exact .child .self group children mem
  | child _ group' children' mem' ih => exact .child ih group' children' mem'

/-- What holds of the nodes of a tree holds below each child. -/
theorem NoNullIds.child {members : Members} {items : List Json} {item : Json}
    (given : (Json.object members).NoNullIds) (group : members.NameGroup)
    (children : ChildItems members items) (mem : item ∈ items) : item.NoNullIds :=
  fun _ node => given _ (node.of_child group children mem)

end Json

namespace Element

/-- A raw node is drawn as the node that it stands for. -/
theorem ofRaw_eq_ofNode {ids : Key → String} {path : Path} {raw : Json} {node : Node}
    (normal : Node.NormalForm Path.nodeId path raw node) :
    ∀ {key : Key} {depth : Nat}, path.IsAt key → Node.WellFormed defaultMaxDepth depth raw →
      raw.NoNullIds → ofRaw ids key depth raw = ofNode none key node := by
  induction normal with
  | @leaf path members l shown =>
    intro key depth isAt wellFormed given
    have shown_alone : Node.Shows (fun _ => ids key) .top (alone key members) (.leaf l) :=
      shows_alone shown isAt (given _ .self)
    have within : depth ≤ defaultMaxDepth := by
      cases wellFormed <;> assumption
    rw [ofRaw_object within, ofNode, ofMembers_of_leaf shown_alone]
  | @group path members g items children shown items_eq length_eq each ih =>
    intro key depth isAt wellFormed given
    have childless : Node.Shows Path.nodeId path members (.group g []) :=
      ⟨shown.type, shown.id, shown.fields⟩
    have shown_alone : Node.Shows (fun _ => ids key) .top (alone key members) (.group g []) :=
      shows_alone childless isAt (given _ .self)
    have group : members.NameGroup := ⟨_, shown.admits.nodeType?_eq, g.isGroup_type⟩
    have within : depth ≤ defaultMaxDepth := by
      cases wellFormed <;> assumption
    have item_wellFormed : ∀ item ∈ items, Node.WellFormed defaultMaxDepth (depth + 1) item := by
      cases wellFormed with
      | leaf _ isLeaf admits =>
        rw [admits.unique shown.admits] at isLeaf
        exact absurd (g.isGroup_type.symm.trans isLeaf) (by decide)
      | group _ _ _ items_eq' each' =>
        rw [items_eq.unique items_eq']
        exact each'
    have children_eq : ofItems ids key (depth + 1) 0 items = ofNodes none key 0 children := by
      refine ofItems_eq_ofNodes length_eq fun i hi hn => ?_
      have mem : items[i] ∈ items := List.getElem_mem hi
      rw [Nat.zero_add]
      exact ih i hi hn (isAt.child i) (item_wellFormed _ mem) (given.child group items_eq mem)
    rw [ofRaw_object within, ofNode, ofChildren_of_items items_eq, children_eq,
      ofMembers_of_group shown_alone]

/-- The root of a raw document, where there is one. -/
theorem ofJson_of_root (ids : Key → String) {members : Members} {root : Json}
    (root_eq : members.get? "root" = some root) :
    ofJson ids (.object members) = ofRaw ids .root 0 root := by
  rw [ofJson, Json.get?, root_eq, Option.getD_some]

/-- A valid document is drawn without validation as it is drawn with it, node by node, if no node
of it has an id of null. -/
theorem ofJson_eq_ofDocument {raw : Json} {d : Document}
    (valid : Document.validate .structural raw = .ok d)
    (given : ∀ root, raw.get? "root" = some root → root.NoNullIds) (ids : Key → String) :
    ofJson ids raw = ofDocument d none := by
  obtain ⟨wellFormed, normal⟩ := Document.of_validate valid
  cases normal with
  | @intro members root palette node _ root_eq root_normal =>
    have there : members.get? "root" = some root := (Members.present?_eq_some.1 root_eq).1
    have root_wellFormed : Node.WellFormed defaultMaxDepth 0 root := by
      cases wellFormed with
      | intro _ _ root_eq' wellFormed =>
        obtain rfl := Option.some.inj (root_eq.symm.trans root_eq')
        exact wellFormed
    rw [ofJson_of_root ids there]
    exact ofRaw_eq_ofNode root_normal Path.isAt_root root_wellFormed (given root there)

/-- A container with a text in it, none of them with an id, is drawn alike both ways. -/
theorem ofJson_greeting :
    let child : Json := .object [("type", .string "text"), ("content", .string "Hello")]
    let root : Json := .object [("type", .string "container"), ("children", .array [child])]
    let raw : Json := .object [("version", .string "0.1"), ("root", root)]
    let d : Document := .ofRoot (.group (.container ⟨"root", .vertical, 12, 16⟩)
      [.leaf (.text ⟨"root.children.0", "Hello", .p⟩)])
    Document.validate .structural raw = .ok d ∧ root.NoNullIds ∧
      ofJson (fun _ => "new") raw = ofDocument d none := by
  intro child root raw d
  have valid : Document.validate .structural raw = .ok d := rfl
  have nodes : ∀ node, root.RawNode node → node = root ∨ node = child := by
    intro node raw_node
    induction raw_node with
    | self => exact .inl rfl
    | child _ group children mem ih =>
      rcases ih with same | same
      · obtain rfl := Json.object.inj same
        obtain rfl := children.unique (.array rfl : ChildItems _ [child])
        exact .inr (List.mem_singleton.1 mem)
      · obtain rfl := Json.object.inj same
        obtain ⟨type, named, isGroup⟩ := group
        obtain rfl : NodeType.text = type := Option.some.inj named
        cases isGroup
  have given : root.NoNullIds := by
    intro members raw_node
    rcases nodes _ raw_node with same | same
    · obtain rfl := Json.object.inj same
      exact nofun
    · obtain rfl := Json.object.inj same
      exact nofun
  refine ⟨valid, given, ofJson_eq_ofDocument valid ?_ _⟩
  rintro _ ⟨⟩
  exact given

end Element

end Wireframe
