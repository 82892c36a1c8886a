import Wireframe.Proofs.Document.Issues
import Wireframe.Proofs.Screen.Places

/-!
# Ids in previews

A node of a preview has the id that it is written with. One without an id has its key for one, so
that the same value always looks the same. But an id of null is neither : it is taken from the id
source, although null counts as absent everywhere else (`Element.id_source_is_asked_iff`). Nothing
else in a preview depends on the source (`Element.ofRaw_congr`).
-/

namespace Wireframe

namespace Element

variable {ids ids' : Key → String} {key : Key} {depth : Nat} {raw : Json} {members : Members}

/-! ## The id of a node -/

/-- The id that a preview gives to a node at a key. -/
inductive GivesId (ids : Key → String) (key : Key) (members : Members) : String → Prop
  | written {id : String} (given : members.get? "id" = some (.string id)) :
    GivesId ids key members id
  | ofKey (absent : members.get? "id" = none) : GivesId ids key members key.text
  | ofSource (null : members.get? "id" = some .null) : GivesId ids key members (ids key)

/-- What a node on its own shows for an id is written there, its key, or from the source. -/
theorem givesId_of_shows {node : Node}
    (shown : node.Shows (fun _ => ids key) .top (alone key members)) :
    GivesId ids key members node.id := by
  have id_eq := shown.id
  simp only [FieldRule.read?, idRule, Members.present?, get?_alone_id] at id_eq
  cases given : members.get? "id" with
  | none =>
    have same : key.text = node.id := by simpa [given, FieldKind.read?] using id_eq
    exact same ▸ .ofKey given
  | some value =>
    cases value with
    | null =>
      have same : ids key = node.id := by simpa [given] using id_eq
      exact same ▸ .ofSource given
    | string id =>
      have same : id = node.id := by simpa [given, FieldKind.read?] using id_eq
      exact same ▸ .written given
    | _ => simp [given, FieldKind.read?] at id_eq

theorem givesId_ofMembers {drawn : Option (List Element)} {id : String}
    (id_eq : (ofMembers ids key members drawn).id? = some id) : GivesId ids key members id := by
  have spec := ofMembers_spec ids key members drawn
  generalize ofMembers ids key members drawn = element at spec id_eq
  cases spec with
  | refused | unlisted => cases id_eq
  | leaf _ shown =>
    obtain rfl := Option.some.inj id_eq
    rw [id_drawLeaf]
    exact givesId_of_shows shown
  | group _ shown =>
    obtain rfl := Option.some.inj id_eq
    exact givesId_of_shows shown

/-- Only an object is drawn with an id. -/
theorem givesId_ofRaw {id : String} (id_eq : (ofRaw ids key depth raw).id? = some id) :
    ∃ members, raw = .object members ∧ GivesId ids key members id := by
  rcases raw.isNode_or defaultMaxDepth depth with ⟨within, members, rfl⟩ | not_node
  · rw [ofRaw_object within] at id_eq
    exact ⟨members, rfl, givesId_ofMembers id_eq⟩
  · obtain ⟨p, drawn⟩ := ofRaw_of_not_node ids key depth raw not_node
    rw [drawn] at id_eq
    cases id_eq

/-- What is drawn with an id below a raw value is drawn for the raw node at its key. -/
theorem exists_nodeAt_of_mem {element : Element}
    (mem : element ∈ (ofRaw ids .root 0 raw).descendants) {id : String}
    (id_eq : element.id? = some id) :
    ∃ members, raw.NodeAt element.key (.object members) ∧ raw.RawNode (.object members) ∧
      GivesId ids element.key members id := by
  obtain ⟨place, found⟩ := mem_descendants_iff_at?.1 mem
  obtain ⟨node, node_eq, isNode, rfl⟩ := at?_ofRaw found
  obtain ⟨members, rfl, gives⟩ := givesId_ofRaw id_eq
  rw [key_ofRaw]
  exact ⟨members, ⟨place, rfl, node_eq⟩, isNode, gives⟩

/-! ## What depends on the source -/

/-- An id that is not null shows the same with any source. -/
theorem shows_congr {node : Node}
    (shown : node.Shows (fun _ => ids key) .top (alone key members))
    (not_null : members.get? "id" ≠ some .null) :
    node.Shows (fun _ => ids' key) .top (alone key members) := by
  refine ⟨shown.type, ?_, shown.fields⟩
  rw [← shown.id]
  simp only [FieldRule.read?, idRule, Members.present?, get?_alone_id]
  cases given : members.get? "id" with
  | none => rfl
  | some value =>
    cases value with
    | null => exact absurd given not_null
    | _ => rfl

/-- What is wrong with a node on its own does not depend on the source. -/
theorem validate_alone_of_refused (options : ValidationOptions)
    (none_admits : ∀ type : NodeType, ¬ type.Admits members) :
    Node.validate options (.object (alone key members)) =
      .error (Fields.issuesOf ⟨alone key members, .top⟩ (alone key members).faults) := by
  rw [validate_alone, ← Node.issues_checkMembers_of_childless options]
  have faulty : (Node.checkAlone options ⟨alone key members, .top⟩).issues ≠ [] := by
    intro fine
    obtain ⟨type, admits⟩ := Node.issues_checkAlone_eq_nil_iff.1 fine
    exact none_admits type (admits_alone.1 admits)
  unfold Checked.result
  split
  · next fine => exact absurd fine faulty
  · rfl

/-- What no type admits is the same placeholder with any source and any children. -/
theorem ofMembers_of_refused (none_admits : ∀ type : NodeType, ¬ type.Admits members)
    (drawn drawn' : Option (List Element)) :
    ofMembers ids key members drawn = ofMembers ids' key members drawn' := by
  have invalid (ids : Key → String) :
      Node.validate ⟨fun _ => ids key, defaultMaxDepth⟩ (.object (alone key members)) = _ :=
    validate_alone_of_refused _ none_admits
  unfold ofMembers
  dsimp only [alone] at invalid
  simp only [invalid]

/-- A group whose children are no list is the same placeholder with any source. -/
theorem ofMembers_of_unlisted {type : NodeType} (admits : type.Admits members)
    (isGroup : type.isGroup = true) :
    ofMembers ids key members none = ofMembers ids' key members none := by
  have typed (ids : Key → String) : ∃ g children,
      Node.validate ⟨fun _ => ids key, defaultMaxDepth⟩ (.object (alone key members)) =
        .ok (.group g children) := by
    rcases validate_alone_cases ⟨fun _ => ids key, defaultMaxDepth⟩ key members with
      ⟨node, valid, shown, -⟩ | ⟨none_admits, -⟩
    · cases node with
      | leaf l =>
        rw [admits.unique (admits_alone.1 shown.admits)] at isGroup
        exact absurd (l.isGroup_type.symm.trans isGroup) (by decide)
      | group g children => exact ⟨g, children, valid⟩
    · exact absurd admits (none_admits type)
  obtain ⟨g, children, valid⟩ := typed ids
  obtain ⟨g', children', valid'⟩ := typed ids'
  unfold ofMembers
  dsimp only [alone] at valid valid'
  simp only [valid, valid']

/-- What cannot be a node is the same placeholder with any source. -/
theorem ofRaw_congr_of_not_node
    (not_node : defaultMaxDepth < depth ∨ ∀ members, raw ≠ .object members) :
    ofRaw ids key depth raw = ofRaw ids' key depth raw := by
  by_cases deep : defaultMaxDepth < depth
  · cases raw <;> simp only [ofRaw, if_pos deep]
  · cases raw with
    | object members => exact absurd rfl ((not_node.resolve_left deep) members)
    | _ => simp only [ofRaw, if_neg deep]

/-- Items are drawn the same if each of them is. -/
theorem ofItems_congr {parent : Key} {items : List Json}
    (each : ∀ (i : Nat) (item : Json), items[i]? = some item →
      ofRaw ids (parent.child i) depth item = ofRaw ids' (parent.child i) depth item) :
    ofItems ids parent depth 0 items = ofItems ids' parent depth 0 items := by
  refine List.ext_getElem? fun i => ?_
  rw [getElem?_ofItems, getElem?_ofItems, Nat.zero_add]
  exact Option.map_congr fun item item_eq => each i item item_eq

/-- With any source the same is drawn if no node that is drawn has an id of null. -/
theorem ofRaw_congr (raw : Json) : ∀ {key : Key} {depth : Nat},
    (∀ place element members, (ofRaw ids key depth raw).at? place = some element →
      element.id?.isSome → raw.nodeAt? place = some (.object members) →
        Members.get? members "id" ≠ some .null) →
    ofRaw ids key depth raw = ofRaw ids' key depth raw := by
  induction raw using Json.childrenInduction with
  | step raw ih =>
    intro key depth not_null
    rcases raw.isNode_or defaultMaxDepth depth with ⟨within, members, rfl⟩ | not_node
    · have own_not_null : (ofRaw ids key depth (.object members)).id?.isSome →
          Members.get? members "id" ≠ some .null :=
        fun drawn => not_null [] _ members rfl drawn rfl
      rw [ofRaw_object within] at own_not_null not_null ⊢
      rw [ofRaw_object within]
      have spec := ofMembers_spec ids key members (ofChildren ids key depth members)
      generalize element_eq : ofMembers ids key members (ofChildren ids key depth members) = element
        at spec own_not_null not_null
      generalize drawn_eq : ofChildren ids key depth members = drawn at spec element_eq
      cases spec with
      | refused _ p none_admits => rw [← element_eq, ofMembers_of_refused none_admits]
      | leaf _ shown => rw [ofMembers_of_leaf (shows_congr shown (own_not_null rfl))]
      | @unlisted p g shown =>
        have unlisted : ∀ items, ¬ ChildItems members items := by
          intro items listed
          rw [ofChildren_of_items listed] at drawn_eq
          cases drawn_eq
        rw [← element_eq, ofChildren_of_unlisted unlisted]
        exact ofMembers_of_unlisted (admits_alone.1 shown.admits) g.isGroup_type
      | @group children g shown =>
        by_cases listed : ∃ items, ChildItems members items
        · obtain ⟨items, listed⟩ := listed
          rw [ofChildren_of_items listed] at drawn_eq ⊢
          obtain rfl := Option.some.inj drawn_eq
          rw [ofMembers_of_group (shows_congr shown (own_not_null rfl))]
          refine congrArg (group key g) (ofItems_congr fun i item item_eq => ?_)
          cases listed with
          | unset => simp at item_eq
          | array present =>
            refine ih members items rfl present item (List.mem_of_getElem? item_eq) ?_
            intro place below members' found drawn node_eq
            refine not_null (i :: place) below members' ?_ drawn ?_
            · refine at?_cons_eq_some_iff.2 ⟨_, ?_, found⟩
              rw [children, getElem?_ofItems, item_eq, Nat.zero_add]
              rfl
            · refine Json.nodeAt?_cons_eq_some_iff.2 ⟨item, ?_, node_eq⟩
              rw [(ChildItems.array present).childItems_eq, item_eq]
        · rw [ofChildren_of_unlisted (not_exists.1 listed)] at drawn_eq
          cases drawn_eq
    · exact ofRaw_congr_of_not_node not_node

theorem ofRaw_of_noNullIds (given : raw.NoNullIds) (ids ids' : Key → String) :
    ofRaw ids key depth raw = ofRaw ids' key depth raw := by
  refine ofRaw_congr raw fun place element members found _ node_eq => ?_
  obtain ⟨node, node_eq', isNode, -⟩ := at?_ofRaw found
  obtain rfl := Option.some.inj (node_eq.symm.trans node_eq')
  exact given members isNode

/-! ## Previews -/

/-- Whether all that a preview draws has its own id : a string that it is written with, or its key
where the id is absent or null. -/
def NamesOwn (ids : Key → String) (raw : Json) : Prop :=
  ∀ element ∈ (ofJson ids raw).descendants, ∀ id, element.id? = some id →
    ∃ members, raw.drawnRoot.NodeAt element.key (.object members) ∧
      (Members.present? members "id" = some (.string id) ∨
        Members.present? members "id" = none ∧ id = element.key.text)

/-- Whether a preview draws a node with an id of null. -/
def AsksSource (ids : Key → String) (raw : Json) : Prop :=
  ∃ element ∈ (ofJson ids raw).descendants, element.id?.isSome ∧
    ∃ members, raw.drawnRoot.NodeAt element.key (.object members) ∧
      Members.get? members "id" = some .null

/-- What has an id of null is drawn with one from the source. -/
theorem id?_of_null {element : Element} (mem : element ∈ (ofJson ids raw).descendants) {id : String}
    (id_eq : element.id? = some id) (here : raw.drawnRoot.NodeAt element.key (.object members))
    (null : members.get? "id" = some .null) : id = ids element.key := by
  obtain ⟨members', here', -, gives⟩ := exists_nodeAt_of_mem mem id_eq
  obtain rfl := Json.object.inj (here.unique here')
  cases gives with
  | written given => cases null.symm.trans given
  | ofKey absent => cases null.symm.trans absent
  | ofSource => rfl

/-- Where the source is not asked every source gives the same preview. -/
theorem ofJson_congr (not_asked : ¬ AsksSource ids raw) (ids' : Key → String) :
    ofJson ids' raw = ofJson ids raw := by
  refine (ofRaw_congr raw.drawnRoot fun place element members found drawn node_eq null => ?_).symm
  have mem : element ∈ (ofJson ids raw).descendants := mem_descendants_iff_at?.2 ⟨place, found⟩
  obtain ⟨node, -, -, element_eq⟩ := at?_ofRaw found
  have key_eq : element.key = .ofPlace place := by
    rw [element_eq, key_ofRaw]
    rfl
  exact not_asked ⟨element, mem, drawn, members, ⟨place, key_eq, node_eq⟩, null⟩

/-- Names of keys that are no key's own text. -/
theorem ne_append_mark (s : String) : s ≠ s ++ "'" := by
  intro same
  have length_eq := congrArg String.length same
  simp at length_eq

/-- Whatever is drawn with an id has the one that it is written with, its key if it has none, and
one from the source if its id is null. Where no id of null is drawn, everything has its own id and
all sources give the same preview, and otherwise neither is so. -/
theorem id_source_is_asked_iff (ids : Key → String) (raw : Json) :
    (∀ element ∈ (ofJson ids raw).descendants, ∀ id, element.id? = some id →
      ∃ members, raw.drawnRoot.NodeAt element.key (.object members) ∧
        GivesId ids element.key members id) ∧
    ((∀ ids', NamesOwn ids' raw) ↔ ¬ AsksSource ids raw) ∧
    ((∀ ids', ofJson ids' raw = ofJson ids raw) ↔ ¬ AsksSource ids raw) := by
  have gives (ids : Key → String) (element : Element) (mem : element ∈ (ofJson ids raw).descendants)
      (id : String) (id_eq : element.id? = some id) :
      ∃ members, raw.drawnRoot.NodeAt element.key (.object members) ∧
        GivesId ids element.key members id := by
    obtain ⟨members, here, -, gives⟩ := exists_nodeAt_of_mem mem id_eq
    exact ⟨members, here, gives⟩
  refine ⟨gives ids, ⟨fun own asked => ?_, fun not_asked ids' => ?_⟩,
    fun same asked => ?_, fun not_asked ids' => ofJson_congr not_asked ids'⟩
  · -- with a source that gives no key its own text nothing can be asked for
    let other (key : Key) : String := key.text ++ "'"
    have not_asked : ¬ AsksSource other raw := by
      rintro ⟨element, mem, drawn, members, here, null⟩
      obtain ⟨id, id_eq⟩ := Option.isSome_iff_exists.1 drawn
      obtain ⟨members', here', named⟩ := own other element mem id id_eq
      obtain rfl := Json.object.inj (here.unique here')
      have from_source := id?_of_null mem id_eq here null
      rcases named with written | ⟨-, of_key⟩
      · simp [Members.present?, null] at written
      · exact ne_append_mark _ (of_key.symm.trans from_source)
    rw [AsksSource, ofJson_congr not_asked ids] at asked
    exact not_asked asked
  · intro element mem id id_eq
    rw [ofJson_congr not_asked ids'] at mem
    obtain ⟨members, here, gives⟩ := gives ids element mem id id_eq
    refine ⟨members, here, ?_⟩
    cases gives with
    | written given => exact .inl (Members.present?_eq_some.2 ⟨given, nofun⟩)
    | ofKey absent => exact .inr ⟨by rw [Members.present?, absent], rfl⟩
    | ofSource null => exact absurd ⟨element, mem, by simp [id_eq], members, here, null⟩ not_asked
  · obtain ⟨element, mem, drawn, members, here, null⟩ := asked
    obtain ⟨id, id_eq⟩ := Option.isSome_iff_exists.1 drawn
    let other (key : Key) : String := ids key ++ "'"
    have mem' : element ∈ (ofJson other raw).descendants := by rwa [same other]
    exact ne_append_mark _ ((id?_of_null mem id_eq here null).symm.trans
      (id?_of_null mem' id_eq here null))

/-- A text with an id of null has neither its key for an id nor the same id twice. -/
theorem null_id_is_drawn_from_source :
    let raw : Json := .object [("content", .string "Hi"), ("id", .null), ("type", .string "text"),
      ("variant", .string "h1")]
    ¬ NamesOwn (fun _ => "new") raw ∧
      ofJson (fun _ => "new") raw ≠ ofJson (fun _ => "newer") raw := by
  intro raw
  have drawn (id : String) :
      ofJson (fun _ => id) raw = leaf .root (.text ⟨id, "Hi", .h1⟩) := rfl
  refine ⟨fun own => ?_, fun same => ?_⟩
  · have mem : leaf .root (.text ⟨"new", "Hi", .h1⟩) ∈
        (ofJson (fun _ => "new") raw).descendants := by
      rw [drawn]
      exact List.mem_singleton_self _
    obtain ⟨members, here, named⟩ := own _ mem "new" rfl
    have top : raw.drawnRoot.NodeAt .root raw := ⟨[], rfl, rfl⟩
    obtain rfl := Json.object.inj (here.unique top)
    rcases named with written | ⟨-, of_key⟩
    · cases written
    · exact absurd of_key (by decide)
  · rw [drawn, drawn] at same
    simp at same

end Element

end Wireframe
