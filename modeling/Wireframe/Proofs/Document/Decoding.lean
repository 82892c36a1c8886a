import Wireframe.Document.Decoding
import Wireframe.Proofs.Document.Roundtrip

/-!
# Reading back and validating

A written document is read back as it is (`Document.decode?_toJson`). Reading back and validating
are two readings of raw values, the one without defaults and the other with them. What both accept
they read alike, whatever gives the ids, unless a delay does not come back from a double
(`Document.readings_agree`) : a field that is read back is there, and the validator takes it for
what it is.
-/

namespace Wireframe

/-! ## Written documents are read back -/

/-- A word is read from the number that it is written as, and from no other. -/
theorem Number.toWord?_eq_some_iff {n : Number} {word : UInt64} :
    n.toWord? = some word ↔ n = .integer word.toNat := by
  have small : word.toNat < 2 ^ 64 := word.toNat_lt
  cases n with
  | double => simp [toWord?]
  | integer value =>
    simp only [toWord?, pow2, Nat.pow_eq, Option.ite_none_right_eq_some, Option.some.injEq,
      integer.injEq]
    constructor
    · rintro ⟨⟨positive, bounded⟩, rfl⟩
      have same : (UInt64.ofNat value.toNat).toNat = value.toNat :=
        UInt64.toNat_ofNat_of_lt' (by rw [UInt64.size]; omega)
      omega
    · rintro rfl
      refine ⟨⟨by omega, by omega⟩, ?_⟩
      rw [Int.toNat_natCast, UInt64.ofNat_toNat]

theorem Number.toWord?_integer (word : UInt64) : (integer word.toNat).toWord? = some word :=
  toWord?_eq_some_iff.2 rfl

section

attribute [local simp] Members.string? Members.choice? Json.choice? Members.double? Members.bool?
  Members.word? Members.optionalString? Members.optionalDouble? Members.present? Members.get?
  List.lookup_cons optionalMember Json.ofChoice Json.ofDouble Json.ofNat Number.toDouble
  Number.toWord?_integer

/-- A leaf is read back from its members. -/
theorem Leaf.decode?_members (leaf : Leaf) :
    decode? (Node.members (.leaf leaf)) leaf.type = some leaf := by
  cases leaf with
  | text t => simp [decode?, Node.members, members, type]
  | input i =>
    obtain ⟨id, name, label, placeholder, kind, showToggle⟩ := i
    cases label <;> cases placeholder <;> simp [decode?, Node.members, members, type]
  | button b => simp [decode?, Node.members, members, type]
  | image i =>
    obtain ⟨id, src, alt, width, height, radius⟩ := i
    cases width <;> cases height <;> simp [decode?, Node.members, members, type]

/-- A group is read back from its members. -/
theorem Group.decode?_members (group : Group) (children : List Node) :
    decode? (Node.members (.group group children)) group.type = some group := by
  cases group <;> simp [decode?, Node.members, members, type]

/-- A palette is read back. -/
theorem Palette.decode?_toJson (p : Palette) : decode? p.toJson = some p := by
  obtain ⟨primary, secondary, background, foreground⟩ := p
  cases primary <;> cases secondary <;> cases background <;> cases foreground <;>
    simp [decode?, toJson, Json.record?]

end

namespace Node

/-- The children are those of the member of that name. -/
theorem decodeChildren?_eq : ∀ members : Members,
    decodeChildren? members = (members.get? "children").bind decodeList?
  | [] => rfl
  | (name, value) :: rest => by
    rw [decodeChildren?]
    by_cases here : name = "children"
    · subst here
      rw [if_pos rfl, Members.get?_cons_self, Option.bind_some]
    · rw [if_neg here, Members.get?_cons_of_ne here, decodeChildren?_eq rest]

/-- Nodes are read from items as many as there are, each from its own. -/
theorem decodeItems?_eq_some_iff : ∀ {items : List Json} {nodes : List Node},
    decodeItems? items = some nodes ↔
      List.Forall₂ (fun item node => decode? true item = some node) items nodes
  | [], nodes => by simp [decodeItems?, eq_comm]
  | item :: rest, nodes => by
    simp only [decodeItems?, Option.bind_eq_bind, Option.bind_eq_some_iff, Option.some.injEq,
      List.forall₂_cons_left_iff, decodeItems?_eq_some_iff]
    constructor
    · rintro ⟨node, node_eq, later, later_eq, rfl⟩
      exact ⟨node, later, node_eq, later_eq, rfl⟩
    · rintro ⟨node, later, node_eq, later_eq, rfl⟩
      exact ⟨node, node_eq, later, later_eq, rfl⟩

/-- A node is read back, at the root as below it. -/
theorem decode?_toJson (node : Node) : ∀ nested, decode? nested node.toJson = some node := by
  induction node using Node.induction with
  | leaf l =>
    intro nested
    have type_eq : (members (.leaf l)).get? "type" = some (.ofChoice l.type) := rfl
    simp [toJson_eq, decode?, type_eq, decodeType?, Json.ofChoice, decodeMembers?, l.isGroup_type,
      l.decode?_members]
  | group g children ih =>
    intro nested
    have type_eq : (members (.group g children)).get? "type" = some (.ofChoice g.type) := rfl
    have children_eq : (members (.group g children)).get? "children" =
        some (.array (children.map toJson)) := by
      cases g <;> simp [members, Group.members, Members.get?, List.lookup_cons]
    have items_eq : decodeItems? (children.map toJson) = some children := by
      rw [decodeItems?_eq_some_iff, List.forall₂_map_left_iff, List.forall₂_same]
      exact fun child mem => ih child mem true
    simp [toJson_eq, decode?, type_eq, decodeType?, Json.ofChoice, decodeMembers?, g.isGroup_type,
      g.decode?_members, decodeChildren?_eq, children_eq, decodeList?, items_eq]

end Node

/-- A document is read back as it was written. -/
theorem Document.decode?_toJson (d : Document) : decode? d.toJson = some d := by
  have version : d.members.string? "version" = some d.version := by
    simp [members, Members.string?, Members.get?]
  have palette : decodePalette? d.members = some d.palette := by
    rw [decodePalette?, d.present?_palette]
    cases d.palette <;> simp [Palette.decode?_toJson]
  have root : d.members.get? "root" = some d.root.toJson :=
    (Members.present?_eq_some.1 d.present?_root).1
  simp [toJson_eq, decode?, Json.record?, version, palette, root, Node.decode?_toJson]

/-! ## Fields that are read back

A field that is read back comes out of its rule as what it was read as. For a word this takes that
the rule admits the field, since a word may be read back from an object as well.
-/

namespace FieldRule

variable {members : Members} {name : String}

theorem read?_of_get? {kind : FieldKind} {default : Option FieldValue} {raw : Json}
    (given : members.get? name = some raw) (notNull : raw ≠ .null) :
    read? ⟨name, kind, default⟩ members = kind.read? raw := by
  rw [read?, Members.present?_eq_some.2 ⟨given, notNull⟩]

theorem read?_of_string? {value : String} (read : members.string? name = some value)
    (default : Option FieldValue) : read? ⟨name, .text, default⟩ members = some (.text value) := by
  unfold Members.string? at read
  split at read
  · next given =>
    cases read
    exact read?_of_get? given (by simp)
  · cases read

theorem read?_of_bool? {value : Bool} (read : members.bool? name = some value)
    (default : Option FieldValue) : read? ⟨name, .truth, default⟩ members = some (.truth value) := by
  unfold Members.bool? at read
  split at read
  · next given =>
    cases read
    exact read?_of_get? given (by simp)
  · cases read

theorem read?_of_double? {value : Double} (read : members.double? name = some value)
    (default : Option FieldValue) :
    read? ⟨name, .number, default⟩ members = some (.number value) := by
  unfold Members.double? at read
  split at read
  · next given =>
    cases read
    exact read?_of_get? given (by simp)
  · cases read

/-- A delay comes out as it was read if it comes back from a double. -/
theorem read?_of_word? {word : UInt64} (read : members.word? name = some word)
    (keeps : (Double.ofInt word.toNat).milliseconds = word.toNat) (default : Option FieldValue) :
    read? ⟨name, .delay, default⟩ members = some (.delay word.toNat) := by
  unfold Members.word? at read
  split at read
  · next given =>
    obtain rfl := Number.toWord?_eq_some_iff.1 read
    rw [read?_of_get? given (by simp)]
    exact congrArg (fun delay => some (FieldValue.delay delay)) keeps
  · cases read

theorem read?_of_optionalString? {value : Option String}
    (read : members.optionalString? name = some value) :
    read? ⟨name, .text, some .unset⟩ members = some (.ofOption .text value) := by
  unfold Members.optionalString? at read
  unfold read?
  split at read
  · next absent =>
    cases read
    rw [absent]
    rfl
  · next given =>
    cases read
    rw [given]
    rfl
  · cases read

theorem read?_of_optionalDouble? {value : Option Double}
    (read : members.optionalDouble? name = some value) :
    read? ⟨name, .number, some .unset⟩ members = some (.ofOption .number value) := by
  unfold Members.optionalDouble? at read
  unfold read?
  split at read
  · next absent =>
    cases read
    rw [absent]
    rfl
  · next given =>
    cases read
    rw [given]
    rfl
  · cases read

theorem read?_of_choice? {α : Type} [Choices α] {value : α} {default : Option FieldValue}
    (read : members.choice? name = some value)
    (admits : FieldRule.Admits ⟨name, .word (Choices.words α), default⟩ members) :
    FieldRule.read? ⟨name, .word (Choices.words α), default⟩ members =
      some (.word (Choices.word value)) := by
  unfold FieldRule.Admits at admits
  cases present : members.present? name with
  | none =>
    -- nothing is read from what is absent or null
    unfold Members.present? at present
    unfold Members.choice? at read
    split at present
    · next null => simp [null, Json.choice?] at read
    · simp [present] at read
  | some raw =>
    rw [present] at admits
    cases admits with
    | @word _ word listed =>
      obtain ⟨given, -⟩ := Members.present?_eq_some.1 present
      have named : Choices.ofWord? word = some value := by
        simpa [Members.choice?, given, Json.choice?] using read
      rw [FieldRule.read?, present, Choices.word_of_ofWord? named]
      simp [FieldKind.read?, listed]

end FieldRule

/-! ## Nodes that are read back -/

section

attribute [local simp] Option.bind_eq_some_iff ShowsFields List.lookup_cons NodeType.rules Node.type
  Node.id Node.fields Leaf.type Leaf.id Leaf.fields Group.type Group.id Group.fields

/-- What the rules of a type say of members that the type admits. -/
theorem NodeType.Admits.rules {type : NodeType} {members : Members} (admits : type.Admits members) :
    ∀ rule ∈ type.rules, rule.Admits members := by
  rw [← type.schema_eq_rules]
  exact admits.fields

/-- A leaf that is read back from members that its type admits is shown by them. -/
theorem Leaf.shows_of_decode? {ids : Path → String} {path : Path} {members : Members}
    {type : NodeType} {leaf : Leaf} (read : decode? members type = some leaf)
    (admits : type.Admits members) (keeps : leaf.KeepsDelay) :
    Node.Shows ids path members (.leaf leaf) := by
  have rules := admits.rules
  cases type with
  | text =>
    simp [decode?] at read rules
    obtain ⟨id, id_eq, content, content_eq, variant, variant_eq, rfl⟩ := read
    refine ⟨admits.type_eq, FieldRule.read?_of_string? id_eq _, ?_⟩
    rw [NodeType.schema_eq_rules]
    simp [FieldRule.read?_of_string? content_eq, FieldRule.read?_of_choice? variant_eq rules.2]
  | input =>
    simp [decode?, -Bool.exists_bool] at read rules
    obtain ⟨id, id_eq, name, name_eq, label, label_eq, placeholder, placeholder_eq, kind, kind_eq,
      toggle, toggle_eq, rfl⟩ := read
    refine ⟨admits.type_eq, FieldRule.read?_of_string? id_eq _, ?_⟩
    rw [NodeType.schema_eq_rules]
    simp [FieldRule.read?_of_string? name_eq, FieldRule.read?_of_optionalString? label_eq,
      FieldRule.read?_of_optionalString? placeholder_eq,
      FieldRule.read?_of_choice? kind_eq rules.2.2.2.1, FieldRule.read?_of_bool? toggle_eq]
  | button =>
    simp [decode?] at read rules
    obtain ⟨id, id_eq, text, text_eq, variant, variant_eq, delay, delay_eq, rfl⟩ := read
    refine ⟨admits.type_eq, FieldRule.read?_of_string? id_eq _, ?_⟩
    rw [NodeType.schema_eq_rules]
    simp [FieldRule.read?_of_string? text_eq, FieldRule.read?_of_choice? variant_eq rules.2.1,
      FieldRule.read?_of_word? delay_eq keeps]
  | image =>
    simp [decode?] at read rules
    obtain ⟨id, id_eq, src, src_eq, alt, alt_eq, width, width_eq, height, height_eq, radius,
      radius_eq, rfl⟩ := read
    refine ⟨admits.type_eq, FieldRule.read?_of_string? id_eq _, ?_⟩
    rw [NodeType.schema_eq_rules]
    simp [FieldRule.read?_of_string? src_eq, FieldRule.read?_of_string? alt_eq,
      FieldRule.read?_of_optionalDouble? width_eq, FieldRule.read?_of_optionalDouble? height_eq,
      FieldRule.read?_of_double? radius_eq]
  | _ => cases read

/-- A group that is read back from members that its type admits is shown by them, whatever its
children are. -/
theorem Group.shows_of_decode? {ids : Path → String} {path : Path} {members : Members}
    {type : NodeType} {group : Group} (read : decode? members type = some group)
    (admits : type.Admits members) (children : List Node) :
    Node.Shows ids path members (.group group children) := by
  have rules := admits.rules
  cases type with
  | container =>
    simp [decode?] at read rules
    obtain ⟨id, id_eq, direction, direction_eq, gap, gap_eq, padding, padding_eq, rfl⟩ := read
    refine ⟨admits.type_eq, FieldRule.read?_of_string? id_eq _, ?_⟩
    rw [NodeType.schema_eq_rules]
    simp [FieldRule.read?_of_choice? direction_eq rules.1, FieldRule.read?_of_double? gap_eq,
      FieldRule.read?_of_double? padding_eq]
  | card =>
    simp [decode?] at read
    obtain ⟨id, id_eq, padding, padding_eq, rfl⟩ := read
    refine ⟨admits.type_eq, FieldRule.read?_of_string? id_eq _, ?_⟩
    rw [NodeType.schema_eq_rules]
    simp [FieldRule.read?_of_double? padding_eq]
  | form =>
    simp [decode?] at read
    obtain ⟨id, id_eq, rfl⟩ := read
    refine ⟨admits.type_eq, FieldRule.read?_of_string? id_eq _, ?_⟩
    rw [NodeType.schema_eq_rules]
    simp
  | _ => cases read

end

namespace Node

/-- Whether the delays of all buttons of a tree come back from a double. -/
def KeepsDelays (node : Node) : Prop :=
  ∀ l, leaf l ∈ node.descendants → l.KeepsDelay

theorem mem_descendantsOf_iff {node : Node} {nodes : List Node} :
    node ∈ descendantsOf nodes ↔ ∃ top ∈ nodes, node ∈ top.descendants := by
  induction nodes with
  | nil => simp [descendantsOf]
  | cons first rest ih =>
    rw [descendantsOf, List.mem_append, ih]
    simp

theorem KeepsDelays.child {g : Group} {children : List Node} {child : Node}
    (keeps : (group g children).KeepsDelays) (mem : child ∈ children) : child.KeepsDelays :=
  fun l below => keeps l (List.mem_cons_of_mem _ (mem_descendantsOf_iff.2 ⟨child, mem, below⟩))

/-- The delays of a stable tree come back. -/
theorem Stable.keepsDelays {bound depth : Nat} {node : Node} (stable : node.Stable bound depth) :
    node.KeepsDelays := by
  induction stable with
  | leaf _ keeps =>
    intro l mem
    obtain rfl := leaf.inj (List.mem_singleton.1 mem)
    exact keeps
  | group _ _ ih =>
    intro l mem
    obtain ⟨child, child_mem, below⟩ :=
      mem_descendantsOf_iff.1 ((List.mem_cons.1 mem).resolve_left nofun)
    exact ih child child_mem l below

/-- Delays of up to 2⁵³ milliseconds come back. -/
theorem keepsDelays_of_le {node : Node}
    (short : ∀ b, leaf (.button b) ∈ node.descendants → b.debounceMs.toNat ≤ 2 ^ 53) :
    node.KeepsDelays := by
  intro l mem
  cases l with
  | button b =>
    have word : b.debounceMs.toNat < 2 ^ 64 := b.debounceMs.toNat_lt
    have fits : Double.Fits b.debounceMs.toNat := by
      rcases Nat.lt_or_eq_of_le (short b mem) with less | power
      · exact Double.fits_of_lt less
      · rw [power, ← Nat.one_mul (2 ^ 53)]
        exact Double.fits_mul (by norm_num) 53
    exact fits.milliseconds_ofInt word
  | _ => trivial

/-- What is read back from members that a type admits is a node of this type. -/
theorem decodeMembers?_of_decode? {nested : Bool} {members : Members} {type : NodeType} {node : Node}
    (admits : type.Admits members) (read : decode? nested (.object members) = some node) :
    decodeMembers? type members (decodeChildren? members) = some node := by
  have type_eq := (Members.present?_eq_some.1 admits.type_eq).1
  simpa [decode?, type_eq, decodeType?] using read

/-- What is read back from a well-formed value is its normal form, whatever gives the ids, if the
delays come back. -/
theorem WellFormed.normalForm_of_decode? {ids : Path → String} {bound depth : Nat} {raw : Json}
    (wellFormed : WellFormed bound depth raw) : ∀ {nested : Bool} {path : Path} {node : Node},
      decode? nested raw = some node → node.KeepsDelays → NormalForm ids path raw node := by
  induction wellFormed with
  | leaf _ isLeaf admits =>
    intro nested path node read keeps
    have read := decodeMembers?_of_decode? admits read
    rw [decodeMembers?, if_neg (by simp [isLeaf])] at read
    obtain ⟨l, l_eq, rfl⟩ := Option.map_eq_some_iff.1 read
    exact .leaf (Leaf.shows_of_decode? l_eq admits (keeps l (List.mem_singleton_self _)))
  | @group depth members type items _ isGroup admits children each ih =>
    intro nested path node read keeps
    have read := decodeMembers?_of_decode? admits read
    rw [decodeMembers?, if_pos isGroup, decodeChildren?_eq] at read
    obtain ⟨g, g_eq, read⟩ := Option.bind_eq_some_iff.1 read
    obtain ⟨nodes, nodes_eq, node_eq⟩ := Option.bind_eq_some_iff.1 read
    obtain rfl := Option.some.inj node_eq
    obtain ⟨value, given, listed⟩ := Option.bind_eq_some_iff.1 nodes_eq
    have shown : Shows ids path members (.group g nodes) := Group.shows_of_decode? g_eq admits nodes
    -- children that are read back are there, as an array
    cases value with
    | array items' =>
      obtain rfl := children.unique (.array (Members.present?_eq_some.2 ⟨given, nofun⟩))
      obtain ⟨length_eq, nodes_eq⟩ := List.forall₂_iff_get.1 (decodeItems?_eq_some_iff.1 listed)
      refine .group shown children length_eq.symm fun i hi hc => ?_
      exact ih _ (List.getElem_mem hi) (nodes_eq i hi hc) (keeps.child (List.getElem_mem hc))
    | _ => simp [decodeList?] at listed

end Node

/-! ## Documents that are read back -/

/-- A palette that is read back from a well-formed value is its normal form. -/
theorem Palette.WellFormed.normalForm_of_decode? {members : Members} {palette : Option Palette}
    (wellFormed : Palette.WellFormed (members.present? "palette"))
    (read : Document.decodePalette? members = some palette) :
    NormalForm (members.present? "palette") palette := by
  unfold Document.decodePalette? at read
  generalize members.present? "palette" = raw at wellFormed read
  cases wellFormed with
  | unset =>
    obtain rfl := Option.some.inj read
    exact .unset
  | @colours members _ =>
    obtain ⟨p, p_eq, rfl⟩ := Option.map_eq_some_iff.1 read
    simp only [decode?, Json.record?, Option.bind_eq_bind, Option.bind_some,
      Option.bind_eq_some_iff, Option.some.injEq] at p_eq
    obtain ⟨primary, primary_eq, secondary, secondary_eq, background, background_eq, foreground,
      foreground_eq, rfl⟩ := p_eq
    refine .colours ?_
    simp [ShowsFields, schema, fields, List.lookup_cons,
      FieldRule.read?_of_optionalString? primary_eq, FieldRule.read?_of_optionalString? secondary_eq,
      FieldRule.read?_of_optionalString? background_eq,
      FieldRule.read?_of_optionalString? foreground_eq]

namespace Document

/-- What is read back from a well-formed value is its normal form, whatever gives the ids, if the
delays come back. -/
theorem WellFormed.normalForm_of_decode? {ids : Path → String} {bound : Nat} {raw : Json}
    {d : Document} (wellFormed : WellFormed bound raw) (read : decode? raw = some d)
    (keeps : d.root.KeepsDelays) : NormalForm ids raw d := by
  cases wellFormed with
  | @intro members root version palette root_eq root_wellFormed =>
    have version_eq := (Members.present?_eq_some.1 version).1
    have there := (Members.present?_eq_some.1 root_eq).1
    simp only [decode?, Json.record?, Members.string?, version_eq, there, Option.bind_eq_bind,
      Option.bind_some, Option.bind_eq_some_iff, Option.some.injEq] at read
    obtain ⟨p, p_eq, node, node_eq, rfl⟩ := read
    exact .intro (palette.normalForm_of_decode? p_eq) root_eq
      (root_wellFormed.normalForm_of_decode? node_eq keeps)

/-- Every written document is read back as it is. And what is read back from a value that is valid
is what it is validated to, whatever gives the ids and whatever the bound, exactly if all delays
come back from a double, as those of up to 2⁵³ milliseconds do. -/
theorem readings_agree :
    (∀ d : Document, decode? d.toJson = some d) ∧
      ∀ (options : ValidationOptions) (raw : Json) (read validated : Document),
        decode? raw = some read → validate options raw = .ok validated →
        (read = validated ↔ read.root.KeepsDelays) ∧
          ((∀ b, .leaf (.button b) ∈ read.nodes → b.debounceMs.toNat ≤ 2 ^ 53) →
            read = validated) := by
  refine ⟨decode?_toJson, fun options raw read validated read_eq valid => ?_⟩
  obtain ⟨wellFormed, normal⟩ := of_validate valid
  have same_iff : read = validated ↔ read.root.KeepsDelays := by
    constructor
    · rintro rfl
      exact (stable_of_validate valid).root.keepsDelays
    · intro keeps
      exact (wellFormed.normalForm_of_decode? read_eq keeps).unique normal
  exact ⟨same_iff, fun short => same_iff.2 (Node.keepsDelays_of_le short)⟩

/-- A card with members in any order, one of them unknown and one null, and with a button of the
longest delay is read back and validated to the same document. -/
theorem longest_short_delay_is_read_alike :
    let button : Json := .object [("debounceMs", .ofNat (2 ^ 53)), ("variant", .string "link"),
      ("color", .string "red"), ("text", .string "Go"), ("type", .string "button"),
      ("id", .string "go")]
    let root : Json := .object [("padding", .ofNat 3), ("children", .array [button]),
      ("id", .string ""), ("type", .string "card")]
    let raw : Json := .object [("root", root), ("palette", .null), ("version", .string "0.1")]
    let go : Leaf := .button ⟨"go", "Go", .link, .ofNat (2 ^ 53)⟩
    let read := ofRoot (.group (.card ⟨"", 3⟩) [.leaf go])
    decode? raw = some read ∧
      (∀ b, .leaf (.button b) ∈ read.nodes → b.debounceMs.toNat ≤ 2 ^ 53) ∧
      ∃ validated, validate .structural raw = .ok validated ∧ read = validated := by
  intro button root raw go read
  have read_eq : decode? raw = some read := by decide +kernel
  have short : ∀ b, .leaf (.button b) ∈ read.nodes → b.debounceMs.toNat ≤ 2 ^ 53 := by
    intro b mem
    simp only [read, go, ofRoot, nodes, Node.descendants, Node.descendantsOf] at mem
    simp at mem
    rw [mem]
    decide
  have accepted : (validate .structural raw).isOk := by decide +kernel
  cases valid : validate .structural raw with
  | error issues =>
    rw [valid] at accepted
    cases accepted
  | ok validated =>
    refine ⟨read_eq, short, validated, rfl, ?_⟩
    exact (readings_agree.2 .structural raw read validated read_eq valid).2 short

end Document

end Wireframe
