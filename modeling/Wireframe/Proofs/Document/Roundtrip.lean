import Wireframe.Document.Ingest
import Wireframe.Proofs.Decimal.Whole
import Wireframe.Proofs.Document.Acceptance
import Wireframe.Proofs.Document.Writing

/-!
# Written documents

A document that was taken in is valid as it is written, and is its own normal form. What it takes
is that the tree keeps within the bound and that the delays of its buttons come back from a
double (`Node.Stable`). The validator only gives such documents, since a delay that it gives was
read from a double, and so do the conversions.
-/

namespace Wireframe

/-! ## Stable documents -/

/-- Whether the delay of a button is still the same after it was read from a double. -/
def Leaf.KeepsDelay : Leaf → Prop
  | button b => (Double.ofInt b.debounceMs.toNat).milliseconds = b.debounceMs.toNat
  | text _ | input _ | image _ => True

/-- Trees at a depth that keep within the bound, and whose delays keep. -/
inductive Node.Stable (bound : Nat) : Nat → Node → Prop
  | leaf {depth : Nat} {leaf : Leaf} (within : depth ≤ bound) (keeps : leaf.KeepsDelay) :
    Stable bound depth (.leaf leaf)
  | group {depth : Nat} {group : Group} {children : List Node} (within : depth ≤ bound)
    (each : ∀ child ∈ children, Stable bound (depth + 1) child) :
    Stable bound depth (.group group children)

/-- Documents of the current version whose tree is stable. -/
structure Document.Stable (bound : Nat) (d : Document) : Prop where
  version : d.version = "0.1"
  root : d.root.Stable bound 0

/-! ## Validated documents are stable -/

/-- A delay that was read keeps. -/
theorem FieldRule.milliseconds_of_read? {members : Members} {n : Nat}
    (h : FieldRule.read? ⟨"debounceMs", .delay, some (.delay 600)⟩ members = some (.delay n)) :
    (Double.ofInt n).milliseconds = n := by
  simp only [FieldRule.read?] at h
  cases present : members.present? "debounceMs" with
  | none =>
    have default : 600 = n := by simpa [present] using h
    subst default
    exact (Double.fits_of_lt (by norm_num)).milliseconds_ofInt (by norm_num)
  | some raw =>
    rw [present] at h
    cases raw with
    | number value =>
      have read : value.toDouble.milliseconds = n := by simpa [FieldKind.read?] using h
      subst read
      exact value.toDouble.milliseconds_ofInt_milliseconds
    | _ => simp [FieldKind.read?] at h

namespace Node

/-- A leaf that members show keeps its delay. -/
theorem Shows.keepsDelay {ids : Path → String} {path : Path} {members : Members} {leaf : Leaf}
    (h : Shows ids path members (.leaf leaf)) : leaf.KeepsDelay := by
  cases leaf with
  | button b =>
    have delay := h.fields ⟨"debounceMs", .delay, some (.delay 600)⟩
      (by simp [Node.type, Leaf.type, NodeType.schema])
    exact FieldRule.milliseconds_of_read? delay
  | _ => trivial

/-- The normal form of a well-formed value is stable. -/
theorem NormalForm.stable {ids : Path → String} {path : Path} {raw : Json} {node : Node}
    {bound depth : Nat} (normal : NormalForm ids path raw node)
    (wellFormed : WellFormed bound depth raw) : Stable bound depth node := by
  induction normal generalizing depth with
  | leaf shown =>
    have within : depth ≤ bound := by cases wellFormed <;> assumption
    exact .leaf within shown.keepsDelay
  | @group path members group items children shown items_eq length_eq each ih =>
    cases wellFormed with
    | leaf within isLeaf admits =>
      have isGroup := group.isGroup_type
      rw [show group.type = _ from shown.admits.unique admits, isLeaf] at isGroup
      cases isGroup
    | group within isGroup admits items_eq' each' =>
      obtain rfl := items_eq.unique items_eq'
      refine .group within fun child mem => ?_
      obtain ⟨i, hi, rfl⟩ := List.getElem_of_mem mem
      exact ih i (length_eq ▸ hi) hi (each' _ (List.getElem_mem _))

end Node

/-! ## Written documents are valid -/

namespace Node

attribute [local simp] ShowsFields NodeType.rules FieldRule.read? FieldKind.read? idRule
  Members.present? Members.get? List.lookup_cons optionalMember Json.ofChoice Json.ofDouble Json.ofNat
  FieldValue.ofOption Number.toDouble Choices.word_mem_words Node.type Group.type Leaf.type
  Node.id Group.id Leaf.id Node.fields Group.fields Leaf.fields Node.members Group.members
  Leaf.members

/-- The members of a written leaf show it, whatever gives the ids. -/
theorem shows_members_leaf {ids : Path → String} {path : Path} {leaf : Leaf}
    (keeps : leaf.KeepsDelay) : Shows ids path (members (.leaf leaf)) (.leaf leaf) := by
  refine ⟨by simp, by cases leaf <;> simp, ?_⟩
  rw [NodeType.schema_eq_rules]
  cases leaf with
  | text t => simp
  | input i =>
    obtain ⟨id, name, label, placeholder, kind, showToggle⟩ := i
    cases label <;> cases placeholder <;> simp
  | button b =>
    have keeps : (Double.ofInt b.debounceMs.toNat).milliseconds = b.debounceMs.toNat := keeps
    simp [keeps]
  | image i =>
    obtain ⟨id, src, alt, width, height, radius⟩ := i
    cases width <;> cases height <;> simp

/-- The members of a written group show it, whatever gives the ids. -/
theorem shows_members_group {ids : Path → String} {path : Path} {group : Group}
    {children : List Node} :
    Shows ids path (members (.group group children)) (.group group children) := by
  refine ⟨by simp, by cases group <;> simp, ?_⟩
  rw [NodeType.schema_eq_rules]
  cases group <;> simp

/-- The children of a written group are its written children. -/
theorem childItems_members (group : Group) (children : List Node) :
    ChildItems (members (.group group children)) (children.map toJson) := by
  refine .array ?_
  cases group <;> simp

/-- A stable node is its own normal form as it is written, whatever gives the ids. -/
theorem Stable.normalForm {ids : Path → String} {bound depth : Nat} {node : Node}
    (stable : node.Stable bound depth) : ∀ path, NormalForm ids path node.toJson node := by
  induction stable with
  | leaf within keeps =>
    intro path
    rw [toJson_eq]
    exact .leaf (shows_members_leaf keeps)
  | @group depth group children within each ih =>
    intro path
    rw [toJson_eq]
    refine .group shows_members_group (childItems_members group children)
      (List.length_map _).symm ?_
    intro i hi hc
    rw [List.getElem_map]
    exact ih _ (List.getElem_mem hc) _

/-- A stable node is well formed as it is written. -/
theorem Stable.wellFormed {bound depth : Nat} {node : Node} (stable : node.Stable bound depth) :
    WellFormed bound depth node.toJson := by
  induction stable with
  | @leaf depth leaf within keeps =>
    have shown : Shows Path.nodeId .top _ _ := shows_members_leaf keeps
    rw [toJson_eq]
    exact .leaf within leaf.isGroup_type shown.admits
  | @group depth group children within each ih =>
    have shown : Shows Path.nodeId .top _ (.group group children) := shows_members_group
    rw [toJson_eq]
    refine .group within group.isGroup_type shown.admits (childItems_members group children) ?_
    intro item mem
    obtain ⟨child, child_mem, rfl⟩ := List.mem_map.1 mem
    exact ih child child_mem

end Node

namespace Palette

attribute [local simp] Palette.schema FieldRule.read? FieldKind.read? Members.present?
  Members.get? List.lookup_cons optionalMember Palette.fields FieldValue.ofOption

/-- The members of a written palette show it. -/
theorem showsFields_members (p : Palette) : ShowsFields schema p.members p.fields := by
  obtain ⟨primary, secondary, background, foreground⟩ := p
  cases primary <;> cases secondary <;> cases background <;> cases foreground <;>
    simp [ShowsFields, members]

/-- A palette is its own normal form as it is written, and so is no palette. -/
theorem normalForm_toJson (o : Option Palette) : NormalForm (o.map toJson) o := by
  cases o with
  | none => exact .unset
  | some p => exact .colours p.showsFields_members

/-- The normal form of a raw palette is that of a well-formed one. -/
theorem NormalForm.wellFormed {raw : Option Json} {o : Option Palette}
    (normal : NormalForm raw o) : WellFormed raw := by
  cases normal with
  | unset => exact .unset
  | colours shown =>
    refine .colours fun rule mem => ?_
    rw [← FieldRule.isSome_read?, shown rule mem]
    simp at mem
    rcases mem with rfl | rfl | rfl | rfl <;> simp

end Palette

namespace Document

theorem present?_palette (d : Document) :
    d.members.present? "palette" = d.palette.map Palette.toJson := by
  cases h : d.palette <;>
    simp [members, h, optionalMember, Members.present?, Members.get?, List.lookup_cons, Palette.toJson]

theorem present?_root (d : Document) : d.members.present? "root" = some d.root.toJson := by
  cases h : d.palette <;>
    simp [members, h, optionalMember, Members.present?, Members.get?, List.lookup_cons, Node.toJson_eq]

/-- A stable document is valid as it is written, and is what it is validated to. -/
theorem Stable.validate_toJson {bound : Nat} {d : Document} (stable : d.Stable bound)
    (ids : Path → String) : validate ⟨ids, bound⟩ d.toJson = .ok d := by
  have palette_normal := Palette.normalForm_toJson d.palette
  rw [← present?_palette] at palette_normal
  have version : d.members.present? "version" = some (.string "0.1") := by
    simp [members, Members.present?, Members.get?, stable.version]
  obtain ⟨version_eq, root⟩ := stable
  have d_eq : d = ⟨"0.1", d.palette, d.root⟩ := by
    rw [← version_eq]
  have normal : NormalForm ids (.object d.members) ⟨"0.1", d.palette, d.root⟩ :=
    .intro palette_normal d.present?_root (root.normalForm _)
  rw [← d_eq] at normal
  exact validate_eq_ok_iff.2
    ⟨.intro version palette_normal.wellFormed d.present?_root root.wellFormed, normal⟩

/-- A document that was validated is stable. -/
theorem stable_of_validate {options : ValidationOptions} {raw : Json} {d : Document}
    (h : validate options raw = .ok d) : d.Stable options.maxDepth := by
  obtain ⟨wellFormed, normal⟩ := of_validate h
  cases normal with
  | intro palette_normal root_eq root_normal =>
    cases wellFormed with
    | intro version palette root_eq' root_wellFormed =>
      obtain rfl := Option.some.inj (root_eq.symm.trans root_eq')
      exact ⟨rfl, root_normal.stable root_wellFormed⟩

end Document

/-! ## Conversions are stable -/

namespace Strategy

/-- The image that a conversion shows is stable. -/
theorem stable_imageNode {bound depth : Nat} (within : depth ≤ bound) (src alt : String) :
    (imageNode src alt).Stable bound depth :=
  .leaf within trivial

/-- The fields of a login screen are stable. -/
theorem stable_loginFields {bound depth : Nat} (within : depth ≤ bound) (k : Keywords) :
    ∀ node ∈ loginFields k, node.Stable bound depth := by
  have button : (Leaf.button ⟨"cta", "Continue", .primary, defaults.debounceMs⟩).KeepsDelay :=
    (Double.fits_of_lt (n := 600) (by norm_num)).milliseconds_ofInt (by norm_num)
  intro node mem
  simp only [loginFields, List.mem_append, List.mem_ite_nil_right, List.mem_singleton] at mem
  rcases mem with (⟨-, rfl⟩ | ⟨-, rfl⟩) | ⟨-, rfl⟩
  · exact .leaf within trivial
  · exact .leaf within trivial
  · exact .leaf within button

/-- A login screen is stable where two levels below the root are allowed. -/
theorem stable_loginScreen {bound : Nat} (deep : 2 ≤ bound) (k : Keywords)
    (image : Option String) : (loginScreen k image).Stable bound 0 := by
  refine .group (Nat.zero_le _) fun child mem => ?_
  simp only [List.mem_append, Option.mem_toList, Option.map_eq_some_iff, List.mem_cons,
    List.not_mem_nil, or_false] at mem
  rcases mem with ⟨src, -, rfl⟩ | rfl | rfl
  · exact stable_imageNode (by omega) src "preview"
  · exact .leaf (by omega) trivial
  · exact .group (by omega) (stable_loginFields deep k)

/-- A card with an image is stable where one level below the root is allowed. -/
theorem stable_imageCard {bound : Nat} (deep : 1 ≤ bound) (src : String) :
    (imageCard src).Stable bound 0 := by
  refine .group (Nat.zero_le _) fun child mem => ?_
  simp only [List.mem_cons, List.not_mem_nil, or_false] at mem
  rcases mem with rfl | rfl
  · exact stable_imageNode deep src "image"
  · exact .leaf deep trivial

/-- Login screens by words and single images are stable. -/
theorem stable_of_keywordLogin {bound : Nat} (deep : 2 ≤ bound) {raw : Json} {d : Document}
    (h : keywordLogin.convert raw = some d) : d.Stable bound := by
  simp only [keywordLogin] at h
  split_ifs at h with words
  · obtain rfl := Option.some.inj h
    exact ⟨rfl, stable_loginScreen deep _ _⟩
  · obtain ⟨src, -, rfl⟩ := Option.map_eq_some_iff.1 h
    exact ⟨rfl, stable_imageCard (by omega) src⟩

/-- The standard strategies make stable documents. -/
theorem stable_of_convertFirst {bound : Nat} (deep : 2 ≤ bound) {raw : Json} {name : String}
    {d : Document} (h : convertFirst standard raw = some (name, d)) : d.Stable bound := by
  have converted : (keywordLogin.convert raw).map (keywordLogin.name, ·) = some (name, d) := by
    simpa [convertFirst, standard, List.findSome?] using h
  obtain ⟨d', made, pair_eq⟩ := Option.map_eq_some_iff.1 converted
  cases pair_eq
  exact stable_of_keywordLogin deep made

end Strategy

/-- What is taken in with the standard strategies is stable. -/
theorem stable_of_ingest {policy : IngestPolicy} {raw : Json} {taken : Ingested}
    (deep : 2 ≤ policy.validation.maxDepth)
    (h : ingest policy Strategy.standard raw = .ok taken) :
    taken.document.Stable policy.validation.maxDepth := by
  unfold ingest at h
  split at h
  · next d validated =>
    cases h
    exact Document.stable_of_validate validated
  · split_ifs at h
    split at h
    · next name d converted =>
      cases h
      exact Strategy.stable_of_convertFirst deep converted
    · cases h

/-- What was taken in stays as it is : a document that was validated, or converted by the standard
strategies, is valid as it is written, whatever gives the ids, and taken in again under any policy
of the same depth and with any strategies it comes out as it was, validated. -/
theorem ingest_fixed_point {policy : IngestPolicy} {raw : Json} {taken : Ingested}
    (deep : 2 ≤ policy.validation.maxDepth)
    (h : ingest policy Strategy.standard raw = .ok taken) (ids : Path → String)
    (again : IngestPolicy) (same : again.validation = ⟨ids, policy.validation.maxDepth⟩)
    (strategies : List Strategy) :
    Document.validate ⟨ids, policy.validation.maxDepth⟩ taken.document.toJson =
        .ok taken.document ∧
      ingest again strategies taken.document.toJson = .ok ⟨taken.document, .validated⟩ := by
  have valid := (stable_of_ingest deep h).validate_toJson ids
  refine ⟨valid, ?_⟩
  rw [ingest, same, valid]

/-- A single word makes a login screen with the field that it names, which is then valid. -/
theorem ingest_login_screen_again :
    let policy : IngestPolicy := ⟨false, true, .structural⟩
    let screen : Document := .ofRoot (Strategy.loginScreen ⟨false, true, false⟩ none)
    ingest policy Strategy.standard (.string "Senha") =
        .ok ⟨screen, .converted "keyword-login"⟩ ∧
      ingest policy Strategy.standard screen.toJson = .ok ⟨screen, .validated⟩ :=
  have converted : ingest ⟨false, true, .structural⟩ Strategy.standard (.string "Senha") =
      .ok ⟨.ofRoot (Strategy.loginScreen ⟨false, true, false⟩ none), .converted "keyword-login"⟩ :=
    rfl
  ⟨converted, (ingest_fixed_point (by decide) converted Path.nodeId
    ⟨false, true, .structural⟩ rfl Strategy.standard).2⟩

end Wireframe
