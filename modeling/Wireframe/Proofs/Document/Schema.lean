import Wireframe.Document.Validation
import Wireframe.Proofs.Decimal.Rational

/-!
# The documented schema

What the language accepts and what it means, said without reports and stand-ins. The fields of
every type are one table, `NodeType.schema` : a name, what the field holds, and the default that
stands where the field is absent or null. A field without a default has to be there.

`Node.WellFormed` and `Document.WellFormed` say which raw values are accepted.
`Node.NormalForm` and `Document.NormalForm` say which tree a raw value stands for : each field is
what was written or the default, and children keep their number and order.
-/

namespace Wireframe

/-! ## Fields -/

/-- What a field of a document shows. -/
inductive FieldValue where
  | unset
  | text (value : String)
  | truth (value : Bool)
  | number (value : Double)
  | delay (milliseconds : Nat)
  | word (value : String)

/-- What a field holds. -/
inductive FieldKind where
  | text
  | truth
  | number
  | delay
  | word (choices : List String)

namespace FieldKind

/-- Whether a raw value has the JSON type of a kind, and is a choice where there are choices. -/
inductive Admits : FieldKind → Json → Prop
  | text (value : String) : Admits .text (.string value)
  | truth (value : Bool) : Admits .truth (.bool value)
  | number (value : Number) : Admits .number (.number value)
  | delay (value : Number) : Admits .delay (.number value)
  | word {choices : List String} {value : String} (listed : value ∈ choices) :
    Admits (.word choices) (.string value)

/-- What a raw value of a kind shows. -/
def read? : FieldKind → Json → Option FieldValue
  | .text, .string value => some (.text value)
  | .truth, .bool value => some (.truth value)
  | .number, .number value => some (.number value.toDouble)
  | .delay, .number value => some (.delay value.toDouble.milliseconds)
  | .word choices, .string value => if value ∈ choices then some (.word value) else none
  | _, _ => none

theorem isSome_read? {kind : FieldKind} {raw : Json} : (kind.read? raw).isSome ↔ kind.Admits raw := by
  constructor
  · intro h
    unfold read? at h
    split at h
    · exact .text _
    · exact .truth _
    · exact .number _
    · exact .delay _
    · split_ifs at h with listed
      · exact .word listed
      · simp at h
    · simp at h
  · intro h
    cases h with
    | word listed => simp [read?, listed]
    | _ => simp [read?]

end FieldKind

/-- A field of the schema. One without a default is required. -/
structure FieldRule where
  name : String
  kind : FieldKind
  default : Option FieldValue

namespace FieldRule

/-- Whether the members of an object may have a field as they do. -/
def Admits (rule : FieldRule) (members : Members) : Prop :=
  match members.present? rule.name with
  | none => rule.default.isSome
  | some raw => rule.kind.Admits raw

/-- What a field shows : what was written, or the default. -/
def read? (rule : FieldRule) (members : Members) : Option FieldValue :=
  match members.present? rule.name with
  | none => rule.default
  | some raw => rule.kind.read? raw

theorem isSome_read? {rule : FieldRule} {members : Members} :
    (rule.read? members).isSome ↔ rule.Admits members := by
  unfold read? Admits
  cases members.present? rule.name with
  | none => rfl
  | some raw => exact FieldKind.isSome_read?

end FieldRule

/-- The id of a node. -/
def idRule (fallback : String) : FieldRule :=
  ⟨"id", .text, some (.text fallback)⟩

/-- The fields of a type besides id and children. -/
def NodeType.schema : NodeType → List FieldRule
  | .container => [
      ⟨"direction", .word ["vertical", "horizontal"], some (.word "vertical")⟩,
      ⟨"gap", .number, some (.number 12)⟩,
      ⟨"padding", .number, some (.number 16)⟩]
  | .card => [⟨"padding", .number, some (.number 16)⟩]
  | .form => []
  | .text => [
      ⟨"content", .text, none⟩,
      ⟨"variant", .word ["h1", "h2", "h3", "p", "label"], some (.word "p")⟩]
  | .input => [
      ⟨"name", .text, some (.text "field")⟩,
      ⟨"label", .text, some .unset⟩,
      ⟨"placeholder", .text, some .unset⟩,
      ⟨"kind", .word ["text", "email", "password"], some (.word "text")⟩,
      ⟨"showToggle", .truth, some (.truth true)⟩]
  | .button => [
      ⟨"text", .text, none⟩,
      ⟨"variant", .word ["primary", "secondary", "link"], some (.word "primary")⟩,
      ⟨"debounceMs", .delay, some (.delay 600)⟩]
  | .image => [
      ⟨"src", .text, none⟩,
      ⟨"alt", .text, some (.text "")⟩,
      ⟨"width", .number, some .unset⟩,
      ⟨"height", .number, some .unset⟩,
      ⟨"radius", .number, some (.number 8)⟩]

/-- The schema of a type has neither the id nor the children. -/
theorem NodeType.name_of_mem_schema {type : NodeType} {rule : FieldRule}
    (mem : rule ∈ type.schema) : rule.name ≠ "id" ∧ rule.name ≠ "children" := by
  have all : ∀ rule ∈ type.schema, rule.name ≠ "id" ∧ rule.name ≠ "children" := by
    cases type <;> simp [NodeType.schema]
  exact all rule mem

/-- The colours of a palette. -/
def Palette.schema : List FieldRule :=
  ["primary", "secondary", "background", "foreground"].map fun name => ⟨name, .text, some .unset⟩

/-! ## What documents show -/

/-- A value that may be unset. -/
def FieldValue.ofOption {α : Type} (wrap : α → FieldValue) : Option α → FieldValue
  | none => .unset
  | some value => wrap value

namespace FieldValue

variable {α : Type}

theorem ofOption_inj {wrap : α → FieldValue} (wrap_inj : ∀ {a b : α}, wrap a = wrap b ↔ a = b)
    (wrap_ne : ∀ a : α, wrap a ≠ .unset) {a b : Option α} :
    ofOption wrap a = ofOption wrap b ↔ a = b := by
  cases a <;> cases b <;> simp [ofOption, wrap_inj, wrap_ne, (wrap_ne _).symm]

theorem ofOption_text_inj {a b : Option String} :
    ofOption .text a = ofOption .text b ↔ a = b :=
  ofOption_inj (by simp) (by simp)

theorem ofOption_number_inj {a b : Option Double} :
    ofOption .number a = ofOption .number b ↔ a = b :=
  ofOption_inj (by simp) (by simp)

end FieldValue

/-- The fields of a group by their names. -/
def Group.fields : Group → List (String × FieldValue)
  | container c => [
      ("direction", .word (Choices.word c.direction)), ("gap", .number c.gap),
      ("padding", .number c.padding)]
  | card c => [("padding", .number c.padding)]
  | form _ => []

/-- The fields of a leaf by their names. -/
def Leaf.fields : Leaf → List (String × FieldValue)
  | text t => [("content", .text t.content), ("variant", .word (Choices.word t.variant))]
  | input i => [
      ("name", .text i.name), ("label", .ofOption .text i.label),
      ("placeholder", .ofOption .text i.placeholder), ("kind", .word (Choices.word i.kind)),
      ("showToggle", .truth i.showToggle)]
  | button b => [
      ("text", .text b.text), ("variant", .word (Choices.word b.variant)),
      ("debounceMs", .delay b.debounceMs.toNat)]
  | image i => [
      ("src", .text i.src), ("alt", .text i.alt), ("width", .ofOption .number i.width),
      ("height", .ofOption .number i.height), ("radius", .number i.radius)]

/-- The fields of a node by their names. -/
def Node.fields : Node → List (String × FieldValue)
  | leaf l => l.fields
  | group g _ => g.fields

/-- The colours of a palette by their names. -/
def Palette.fields (p : Palette) : List (String × FieldValue) := [
  ("primary", .ofOption .text p.primary), ("secondary", .ofOption .text p.secondary),
  ("background", .ofOption .text p.background), ("foreground", .ofOption .text p.foreground)]

/-- Whether fields show what the rules read from the members of an object. -/
def ShowsFields (rules : List FieldRule) (members : Members) (fields : List (String × FieldValue)) :
    Prop :=
  ∀ rule ∈ rules, rule.read? members = List.lookup rule.name fields

/-! ## Nodes -/

/-- The children that an object has : the items of an array, or none at all. -/
inductive ChildItems (members : Members) : List Json → Prop
  | unset (h : members.present? "children" = none) : ChildItems members []
  | array {items : List Json} (h : members.present? "children" = some (.array items)) :
    ChildItems members items

/-- Whether the members of an object are those of a node of a type, the children apart. -/
structure NodeType.Admits (type : NodeType) (members : Members) : Prop where
  type_eq : members.present? "type" = some (.string (Choices.word type))
  id : (idRule "").Admits members
  fields : ∀ rule ∈ type.schema, rule.Admits members

/-- Raw values that are a node at a depth, none of them below the bound. -/
inductive Node.WellFormed (bound : Nat) : Nat → Json → Prop
  | leaf {depth : Nat} {members : Members} {type : NodeType} (within : depth ≤ bound)
    (isLeaf : type.isGroup = false) (admits : type.Admits members) :
    WellFormed bound depth (.object members)
  | group {depth : Nat} {members : Members} {type : NodeType} {items : List Json}
    (within : depth ≤ bound) (isGroup : type.isGroup = true) (admits : type.Admits members)
    (children : ChildItems members items)
    (each : ∀ item ∈ items, WellFormed bound (depth + 1) item) :
    WellFormed bound depth (.object members)

/-- Whether a node has the type, the id and the fields that the members of an object give. -/
structure Node.Shows (ids : Path → String) (path : Path) (members : Members) (node : Node) :
    Prop where
  type : members.present? "type" = some (.string (Choices.word node.type))
  id : (idRule (ids path)).read? members = some (.text node.id)
  fields : ShowsFields node.type.schema members node.fields

/-- The nodes that raw values at a path stand for. -/
inductive Node.NormalForm (ids : Path → String) : Path → Json → Node → Prop
  | leaf {path : Path} {members : Members} {leaf : Leaf}
    (shows_ : Node.Shows ids path members (.leaf leaf)) :
    NormalForm ids path (.object members) (.leaf leaf)
  | group {path : Path} {members : Members} {group : Group} {items : List Json}
    {children : List Node} (shows_ : Node.Shows ids path members (.group group children))
    (items_eq : ChildItems members items) (length_eq : children.length = items.length)
    (each : ∀ (i : Nat) (hi : i < items.length) (hc : i < children.length),
      NormalForm ids ((path.key "children").index i) items[i] children[i]) :
    NormalForm ids path (.object members) (.group group children)

/-! ## Documents -/

/-- Raw palettes : absent, or colours that are texts. -/
inductive Palette.WellFormed : Option Json → Prop
  | unset : WellFormed none
  | colours {members : Members} (admits : ∀ rule ∈ Palette.schema, rule.Admits members) :
    WellFormed (some (.object members))

/-- The palettes that raw palettes stand for. -/
inductive Palette.NormalForm : Option Json → Option Palette → Prop
  | unset : NormalForm none none
  | colours {members : Members} {palette : Palette}
    (shows_ : ShowsFields Palette.schema members palette.fields) :
    NormalForm (some (.object members)) (some palette)

/-- Raw values that are a document. -/
inductive Document.WellFormed (bound : Nat) : Json → Prop
  | intro {members : Members} {root : Json}
    (version : members.present? "version" = some (.string "0.1"))
    (palette : Palette.WellFormed (members.present? "palette"))
    (root_eq : members.present? "root" = some root)
    (root_wellFormed : Node.WellFormed bound 0 root) :
    WellFormed bound (.object members)

/-- The documents that raw values stand for. -/
inductive Document.NormalForm (ids : Path → String) : Json → Document → Prop
  | intro {members : Members} {root : Json} {palette : Option Palette} {node : Node}
    (palette_normal : Palette.NormalForm (members.present? "palette") palette)
    (root_eq : members.present? "root" = some root)
    (root_normal : Node.NormalForm ids (Path.top.key "root") root node) :
    NormalForm ids (.object members) ⟨"0.1", palette, node⟩

end Wireframe
