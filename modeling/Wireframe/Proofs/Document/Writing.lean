import Wireframe.Document.Encoding
import Wireframe.Proofs.Json.Scanning
import Wireframe.Proofs.Json.Structure

/-!
# The written form

A written node is one object, its children an array in it, so every level of a tree is two levels
of JSON (`Document.nesting_toJson_le_iff`). No object has a name twice, and all numbers are doubles
or words of 64 bits.
-/

namespace Wireframe

namespace Node

/-- Induction from the children of groups. -/
@[elab_as_elim]
theorem induction {P : Node → Prop} (leaf : ∀ l, P (.leaf l))
    (group : ∀ g children, (∀ child ∈ children, P child) → P (.group g children)) (node : Node) :
    P node := by
  cases node with
  | leaf l => exact leaf l
  | group g children =>
    refine group g children fun child mem => ?_
    have := List.sizeOf_lt_of_mem mem
    exact induction leaf group child
termination_by sizeOf node
decreasing_by
  simp only [Node.group.sizeOf_spec]
  omega

mutual

/-- How many levels a node has below it. -/
def height : Node → Nat
  | leaf _ => 0
  | group _ children => heightAll children

/-- How many levels nodes make together. -/
def heightAll : List Node → Nat
  | [] => 0
  | child :: rest => max (height child + 1) (heightAll rest)

end

/-! ## Members -/

theorem toJsonAll_eq_map (nodes : List Node) : toJsonAll nodes = nodes.map toJson := by
  induction nodes with
  | nil => rfl
  | cons node rest ih => rw [toJsonAll, ih, List.map_cons]

/-- The members of a node as it is written. -/
def members : Node → Members
  | leaf l => ("type", .ofChoice l.type) :: l.members
  | group g children => ("type", .ofChoice g.type) :: g.members (.array (children.map toJson))

theorem toJson_eq (node : Node) : node.toJson = .object node.members := by
  cases node <;> simp [toJson, members, toJsonAll_eq_map]

end Node

/-- The members of a palette as it is written. -/
def Palette.members (p : Palette) : Members :=
  optionalMember "primary" .string p.primary ++ optionalMember "secondary" .string p.secondary ++
    optionalMember "background" .string p.background ++
    optionalMember "foreground" .string p.foreground

/-- The members of a document as it is written. -/
def Document.members (d : Document) : Members :=
  ("version", .string d.version) ::
    (optionalMember "palette" Palette.toJson d.palette ++ [("root", d.root.toJson)])

theorem eq_of_mem_optionalMember {α : Type} {name : String} {encode : α → Json} {value : Option α}
    {m : String × Json} (mem : m ∈ optionalMember name encode value) : ∃ a, m = (name, encode a) := by
  cases value with
  | none => cases mem
  | some a => exact ⟨a, List.mem_singleton.1 mem⟩

/-! ## Scalars -/

/-- Values without parts whose number, if it is one, is valid. -/
def Json.IsPlain : Json → Prop
  | null | bool _ | string _ => True
  | number n => n.Valid
  | array _ | object _ => False

namespace Json

theorem IsPlain.nesting_eq {j : Json} (h : j.IsPlain) : j.nesting = 0 := by
  cases j with
  | array | object => cases h
  | _ => simp [nesting]

theorem IsPlain.isSettled {j : Json} (h : j.IsPlain) : j.IsSettled := by
  cases j with
  | array | object => cases h
  | _ => constructor

theorem IsPlain.valid {j : Json} (h : j.IsPlain) {n : Number} (has : j.HasNumber n) : n.Valid := by
  cases j with
  | number m => exact hasNumber_number.1 has ▸ h
  | array | object => cases h
  | _ => simp [HasNumber, tokens] at has

theorem isPlain_string (value : String) : (string value).IsPlain :=
  trivial

theorem isPlain_bool (value : Bool) : (bool value).IsPlain :=
  trivial

theorem isPlain_ofDouble (x : Double) : (ofDouble x).IsPlain :=
  trivial

theorem isPlain_ofChoice {α : Type} [Choices α] (value : α) : (ofChoice value).IsPlain :=
  trivial

/-- A word of 64 bits is a valid number. -/
theorem isPlain_word (word : UInt64) : (ofNat word.toNat).IsPlain := by
  have small : word.toNat < 2 ^ 64 := word.toNat_lt
  simp only [IsPlain, ofNat, Number.Valid, Number.isWord, pow2, Nat.pow_eq, Bool.and_eq_true,
    decide_eq_true_eq]
  omega

end Json

attribute [local simp] optionalMember Members.names Json.isPlain_string Json.isPlain_bool
  Json.isPlain_ofDouble Json.isPlain_ofChoice Json.isPlain_word

/-- The members of a leaf are plain. -/
theorem Leaf.isPlain_of_mem (leaf : Leaf) : ∀ m ∈ leaf.members, m.2.IsPlain := by
  cases leaf with
  | text t => simp [members]
  | input i =>
    obtain ⟨id, name, label, placeholder, kind, showToggle⟩ := i
    cases label <;> cases placeholder <;> simp [members]
  | button b => simp [members]
  | image i =>
    obtain ⟨id, src, alt, width, height, radius⟩ := i
    cases width <;> cases height <;> simp [members]

/-- The members of a group are plain besides the children. -/
theorem Group.isPlain_of_mem (group : Group) (children : Json) :
    ∀ m ∈ group.members children, m.2.IsPlain ∨ m.2 = children := by
  cases group <;> simp [members]

/-- The children are among the members of a group. -/
theorem Group.children_mem (group : Group) (children : Json) :
    ("children", children) ∈ group.members children := by
  cases group <;> simp [members]

/-- The members of a palette are plain. -/
theorem Palette.isPlain_of_mem (p : Palette) : ∀ m ∈ p.members, m.2.IsPlain := by
  obtain ⟨primary, secondary, background, foreground⟩ := p
  cases primary <;> cases secondary <;> cases background <;> cases foreground <;> simp [members]

/-- No two members of a node have one name. -/
theorem Node.nodup_names_members (node : Node) : node.members.names.Nodup := by
  cases node with
  | leaf l =>
    cases l with
    | text t => simp [members, Leaf.members]
    | input i =>
      obtain ⟨id, name, label, placeholder, kind, showToggle⟩ := i
      cases label <;> cases placeholder <;> simp [members, Leaf.members]
    | button b => simp [members, Leaf.members]
    | image i =>
      obtain ⟨id, src, alt, width, height, radius⟩ := i
      cases width <;> cases height <;> simp [members, Leaf.members]
  | group g children => cases g <;> simp [members, Group.members]

theorem Palette.nodup_names_members (p : Palette) : p.members.names.Nodup := by
  obtain ⟨primary, secondary, background, foreground⟩ := p
  cases primary <;> cases secondary <;> cases background <;> cases foreground <;> simp [members]

theorem Document.nodup_names_members (d : Document) : d.members.names.Nodup := by
  obtain ⟨version, palette, root⟩ := d
  cases palette <;> simp [members]

/-! ## Trees -/

namespace Node

/-- A member of a node is plain, or it is the array of the children. -/
theorem isPlain_of_mem {node : Node} {m : String × Json} (mem : m ∈ node.members) :
    m.2.IsPlain ∨ ∃ g children, node = .group g children ∧ m.2 = .array (children.map toJson) := by
  cases node with
  | leaf l =>
    rcases List.mem_cons.1 mem with rfl | mem
    · exact .inl trivial
    · exact .inl (l.isPlain_of_mem m mem)
  | group g children =>
    rcases List.mem_cons.1 mem with rfl | mem
    · exact .inl trivial
    · exact (g.isPlain_of_mem _ m mem).imp_right fun eq => ⟨g, children, rfl, eq⟩

/-- No object of a written node has a name twice. -/
theorem isSettled_toJson (node : Node) : node.toJson.IsSettled := by
  induction node using Node.induction with
  | leaf l =>
    rw [toJson_eq]
    refine .object (nodup_names_members _) fun m mem => ?_
    obtain plain | ⟨g, children, eq, -⟩ := isPlain_of_mem mem
    · exact plain.isSettled
    · cases eq
  | group g children ih =>
    rw [toJson_eq]
    refine .object (nodup_names_members _) fun m mem => ?_
    obtain plain | ⟨g, children, eq, m_eq⟩ := isPlain_of_mem mem
    · exact plain.isSettled
    · cases eq
      rw [m_eq]
      refine .array fun item item_mem => ?_
      obtain ⟨child, child_mem, rfl⟩ := List.mem_map.1 item_mem
      exact ih child child_mem

/-- The numbers of a written node are valid. -/
theorem valid_of_hasNumber {node : Node} {n : Number} (has : node.toJson.HasNumber n) :
    n.Valid := by
  induction node using Node.induction with
  | leaf l =>
    rw [toJson_eq, Json.hasNumber_object] at has
    obtain ⟨m, mem, has⟩ := has
    obtain plain | ⟨g, children, eq, -⟩ := isPlain_of_mem mem
    · exact plain.valid has
    · cases eq
  | group g children ih =>
    rw [toJson_eq, Json.hasNumber_object] at has
    obtain ⟨m, mem, has⟩ := has
    obtain plain | ⟨g, children, eq, m_eq⟩ := isPlain_of_mem mem
    · exact plain.valid has
    · cases eq
      rw [m_eq, Json.hasNumber_array] at has
      obtain ⟨item, item_mem, has⟩ := has
      obtain ⟨child, child_mem, rfl⟩ := List.mem_map.1 item_mem
      exact ih child child_mem has

/-- A written leaf is one level. -/
theorem nesting_toJson_leaf (l : Leaf) : (leaf l).toJson.nesting = 1 := by
  rw [toJson_eq, Json.nesting]
  have flat : Json.nestingMembers (leaf l).members ≤ 0 :=
    Json.nestingMembers_le_iff.2 fun m mem => by
      obtain plain | ⟨g, children, eq, -⟩ := isPlain_of_mem mem
      · exact plain.nesting_eq.le
      · cases eq
  omega

/-- A written group is two levels and those of its children. -/
theorem nesting_toJson_group (g : Group) (children : List Node) :
    (group g children).toJson.nesting = Json.nestingItems (children.map toJson) + 2 := by
  have children_mem : ("children", .array (children.map toJson)) ∈ (group g children).members :=
    List.mem_cons_of_mem _ (g.children_mem _)
  rw [toJson_eq, Json.nesting_object_of_mem children_mem fun m mem => ?_, Json.nesting]
  obtain plain | ⟨g, children, eq, m_eq⟩ := isPlain_of_mem mem
  · simp [plain.nesting_eq]
  · cases eq
    rw [m_eq]

/-- Every level of nodes is two levels of JSON, only the last may be one. -/
theorem nestingItems_bounds : ∀ {nodes : List Node},
    (∀ node ∈ nodes, 2 * node.height + 1 ≤ node.toJson.nesting ∧
      node.toJson.nesting ≤ 2 * node.height + 2) →
    2 * heightAll nodes ≤ Json.nestingItems (nodes.map toJson) + 1 ∧
      Json.nestingItems (nodes.map toJson) ≤ 2 * heightAll nodes
  | [], _ => by simp [heightAll, Json.nestingItems]
  | node :: rest, each => by
    have first := each node (by simp)
    have others := nestingItems_bounds fun n mem => each n (List.mem_cons_of_mem _ mem)
    rw [List.map_cons, Json.nestingItems, heightAll]
    omega

/-- A tree of some height is written with twice as many levels, and one or two more. -/
theorem nesting_toJson_bounds (node : Node) :
    2 * node.height + 1 ≤ node.toJson.nesting ∧ node.toJson.nesting ≤ 2 * node.height + 2 := by
  induction node using Node.induction with
  | leaf l => simp [nesting_toJson_leaf, height]
  | group g children ih =>
    have below := nestingItems_bounds ih
    rw [nesting_toJson_group, height]
    omega

end Node

/-! ## Documents -/

namespace Palette

theorem toJson_eq (p : Palette) : p.toJson = .object p.members :=
  rfl

theorem isSettled_toJson (p : Palette) : p.toJson.IsSettled :=
  .object p.nodup_names_members fun m mem => (p.isPlain_of_mem m mem).isSettled

/-- A written palette is one level. -/
theorem nesting_toJson_le (p : Palette) : p.toJson.nesting ≤ 1 :=
  Json.nesting_object_le_iff.2 fun m mem => (p.isPlain_of_mem m mem).nesting_eq.le

theorem valid_of_hasNumber {p : Palette} {n : Number} (has : p.toJson.HasNumber n) : n.Valid := by
  obtain ⟨m, mem, has⟩ := Json.hasNumber_object.1 has
  exact (p.isPlain_of_mem m mem).valid has

end Palette

namespace Document

theorem toJson_eq (d : Document) : d.toJson = .object d.members :=
  rfl

/-- A member of a document is its version, its palette or its root. -/
theorem of_mem_members {d : Document} {m : String × Json} (mem : m ∈ d.members) :
    m.2 = .string d.version ∨ (∃ p : Palette, m.2 = p.toJson) ∨ m.2 = d.root.toJson := by
  obtain ⟨version, palette, root⟩ := d
  cases palette with
  | none =>
    rcases List.mem_cons.1 mem with rfl | mem
    · exact .inl rfl
    · obtain rfl := List.mem_singleton.1 mem
      exact .inr (.inr rfl)
  | some p =>
    rcases List.mem_cons.1 mem with rfl | mem
    · exact .inl rfl
    rcases List.mem_cons.1 mem with rfl | mem
    · exact .inr (.inl ⟨p, rfl⟩)
    · obtain rfl := List.mem_singleton.1 mem
      exact .inr (.inr rfl)

/-- No object of a written document has a name twice. -/
theorem isSettled_toJson (d : Document) : d.toJson.IsSettled := by
  refine .object d.nodup_names_members fun m mem => ?_
  rcases of_mem_members mem with eq | ⟨p, eq⟩ | eq <;> rw [eq]
  · exact .string _
  · exact p.isSettled_toJson
  · exact d.root.isSettled_toJson

/-- The numbers of a written document are valid. -/
theorem valid_of_hasNumber {d : Document} {n : Number} (has : d.toJson.HasNumber n) : n.Valid := by
  obtain ⟨m, mem, has⟩ := Json.hasNumber_object.1 has
  rcases of_mem_members mem with eq | ⟨p, eq⟩ | eq <;> rw [eq] at has
  · simp [Json.HasNumber, Json.tokens] at has
  · exact Palette.valid_of_hasNumber has
  · exact Node.valid_of_hasNumber has

/-- A written document is one level more than its root. -/
theorem nesting_toJson (d : Document) : d.toJson.nesting = d.root.toJson.nesting + 1 := by
  have root_mem : ("root", d.root.toJson) ∈ d.members := by simp [members]
  refine Json.nesting_object_of_mem root_mem fun m mem => ?_
  rcases of_mem_members mem with eq | ⟨p, eq⟩ | eq <;> rw [eq]
  · simp [Json.nesting]
  · have flat := p.nesting_toJson_le
    have bounds := d.root.nesting_toJson_bounds
    dsimp only
    omega

/-- How deep a tree may be whose document is nested within an odd bound. -/
theorem nesting_toJson_le_iff (d : Document) (levels : Nat) :
    d.toJson.nesting ≤ 2 * levels + 3 ↔ d.root.height ≤ levels := by
  have bounds := d.root.nesting_toJson_bounds
  rw [nesting_toJson]
  omega

end Document

end Wireframe
