import Wireframe.Proofs.Screen.Naming

/-!
# Faults stay in their nodes

A preview decides about a node without its children and then puts the drawn children where the
raw ones stood. So another node at a place, whatever it is, changes the drawing at that place and
nowhere else : the drawing of the changed tree is the changed drawing
(`Element.ofRaw_replaceNode`). What is drawn there depends on the new node, its key and its depth
(`Element.fault_stays_in_its_node`).
-/

namespace Wireframe

/-! ## Other nodes in raw trees -/

/-- Members taken out by their name may have any value before. -/
theorem Members.without_put (name : String) (value : Json) : ∀ {members : Members},
    (members.get? name).isSome → (members.put name value).without name = members.without name
  | [], absent => by cases absent
  | (first, old) :: rest, there => by
    by_cases same : first = name
    · subst same
      simp [put, without]
    · rw [get?_cons_of_ne same] at there
      have others := without_put name value there
      unfold without at others ⊢
      rw [put, if_neg same, List.filter_cons, List.filter_cons, others]

namespace Json

/-- A raw value whose preview has another raw node at a place. -/
def replaceDrawn : Json → List Nat → Json → Json
  | .object members, place, new =>
    match Members.get? members "root" with
    | some root => .object (Members.put members "root" (root.replaceNode place new))
    | none => (object members).replaceNode place new
  | raw, place, new => raw.replaceNode place new

variable {raw new : Json} {place : List Nat}

/-- Below the top no other member than the children is touched. -/
theorem get?_replaceNode (below : place ≠ []) {name : String} (other : name ≠ "children") :
    (raw.replaceNode place new).get? name = raw.get? name := by
  cases place with
  | nil => exact absurd rfl below
  | cons i place =>
    unfold replaceNode
    split
    · split
      · rw [get?, get?, Members.get?_put, if_neg other]
      · rfl
    · rfl

theorem drawnRoot_replaceDrawn (below : place ≠ []) :
    (raw.replaceDrawn place new).drawnRoot = raw.drawnRoot.replaceNode place new := by
  have of_rootless (rootless : raw.get? "root" = none) :
      (raw.replaceNode place new).drawnRoot = raw.drawnRoot.replaceNode place new := by
    rw [drawnRoot, drawnRoot, get?_replaceNode below (by decide), rootless]
    rfl
  cases raw with
  | object members =>
    cases root_eq : Members.get? members "root" with
    | some root => simp [replaceDrawn, drawnRoot, get?, root_eq, Members.get?_put]
    | none =>
      rw [replaceDrawn, root_eq]
      exact of_rootless root_eq
  | _ => exact of_rootless rfl

/-- What was put at a place of a raw tree is there. -/
theorem nodeAt?_replaceNode_self (new : Json) : ∀ {place : List Nat} {raw : Json},
    (raw.nodeAt? place).isSome → (raw.replaceNode place new).nodeAt? place = some new
  | [], raw, _ => by rw [replaceNode, nodeAt?]
  | i :: place, raw, there => by
    obtain ⟨node, found⟩ := Option.isSome_iff_exists.1 there
    obtain ⟨item, item_eq, deeper⟩ := nodeAt?_cons_eq_some_iff.1 found
    obtain ⟨members, rfl, array⟩ := exists_array_of_childItems item_eq
    refine nodeAt?_cons_eq_some_iff.2 ⟨item.replaceNode place new, ?_, ?_⟩
    · rw [replaceNode, array]
      dsimp only
      rw [childItems_put, List.getElem?_modify, item_eq]
      simp
    · exact nodeAt?_replaceNode_self new (by rw [deeper]; rfl)

/-- The raw nodes below an object are those of its children. -/
theorem rawNode_cases {members : Members} {node : Json} (isNode : (object members).RawNode node) :
    node = object members ∨
      ∃ items, ChildItems members items ∧ ∃ item ∈ items, item.RawNode node := by
  induction isNode with
  | self => exact .inl rfl
  | @child members' items' item parent group children mem ih =>
    rcases ih with same | ⟨items, listed, top, top_mem, isNode⟩
    · obtain rfl := Json.object.inj same
      exact .inr ⟨items', children, item, mem, .self⟩
    · exact .inr ⟨items, listed, top, top_mem, isNode.child group children mem⟩

/-- What holds of an object and of all nodes below its children holds of all its nodes. -/
theorem forall_rawNode {P : Members → Prop} {members : Members} (own : P members)
    (each : ∀ items, ChildItems members items → ∀ item ∈ items, ∀ members',
      item.RawNode (object members') → P members') :
    ∀ members', (object members).RawNode (object members') → P members' := by
  intro members' isNode
  rcases rawNode_cases isNode with same | ⟨items, listed, item, mem, isNode⟩
  · obtain rfl := Json.object.inj same
    exact own
  · exact each items listed item mem members' isNode

/-- A tree has no id of null if neither its top nor a tree below has one. -/
theorem NoNullIds.of_children {members : Members} (own : Members.get? members "id" ≠ some .null)
    (each : ∀ items, ChildItems members items → ∀ item ∈ items, item.NoNullIds) :
    (object members).NoNullIds :=
  forall_rawNode own each

end Json

/-! ## Other nodes in previews -/

namespace Element

variable {ids : Key → String} {key : Key} {depth : Nat}

/-- A node is decided about without its children. -/
theorem ofMembers_put_children {members : Members} (there : (members.get? "children").isSome)
    (value : Json) (drawn : Option (List Element)) :
    ofMembers ids key (members.put "children" value) drawn = ofMembers ids key members drawn := by
  have type_eq : (members.put "children" value).get? "type" = members.get? "type" := by
    rw [Members.get?_put, if_neg (by decide)]
  unfold ofMembers
  rw [type_eq, Members.without_put "children" value there]

/-- One other item makes one other child. -/
theorem ofItems_modify {parent : Key} {items : List Json} {i : Nat} {f : Json → Json}
    {g : Element → Element}
    (here : ∀ item, items[i]? = some item →
      ofRaw ids (parent.child i) depth (f item) = g (ofRaw ids (parent.child i) depth item)) :
    ofItems ids parent depth 0 (items.modify i f) =
      (ofItems ids parent depth 0 items).modify i g := by
  refine List.ext_getElem? fun j => ?_
  rw [getElem?_ofItems, List.getElem?_modify, List.getElem?_modify, getElem?_ofItems, Nat.zero_add]
  by_cases same : i = j
  · subst same
    cases item_eq : items[i]? with
    | none => rfl
    | some item => simpa using here item item_eq
  · simp [same]

/-- The drawing of a tree with another node at a place that is drawn is the drawing of the tree with
another element at that place. -/
theorem ofRaw_replaceNode (ids : Key → String) (new : Json) :
    ∀ {place : List Nat} {key : Key} {depth : Nat} {raw : Json},
      ((ofRaw ids key depth raw).at? place).isSome →
        ofRaw ids key depth (raw.replaceNode place new) =
          (ofRaw ids key depth raw).replaceAt place
            (ofRaw ids (key.descend place) (depth + place.length) new)
  | [], key, depth, raw, _ => by
    rw [Json.replaceNode, replaceAt_nil, Key.descend_nil, List.length_nil, Nat.add_zero]
  | i :: place, key, depth, raw, there => by
    obtain ⟨element, found⟩ := Option.isSome_iff_exists.1 there
    obtain ⟨c, child_eq, found⟩ := at?_cons_eq_some_iff.1 found
    rcases ofRaw_cases ids key depth raw with childless | ⟨members, g, rfl, within, shown, drawn⟩
    · simp [childless] at child_eq
    · rw [drawn, children, getElem?_ofItems, Option.map_eq_some_iff, Nat.zero_add] at child_eq
      obtain ⟨item, item_eq, rfl⟩ := child_eq
      obtain ⟨_, same, array⟩ := Json.exists_array_of_childItems item_eq
      obtain rfl := Json.object.inj same
      have there : (Members.get? members "children").isSome := by
        rw [(Members.present?_eq_some.1 array).1]
        rfl
      rw [Json.replaceNode, array, ofRaw_object within, ofMembers_put_children there,
        ofChildren_of_items (.array (Members.present?_put_array ..)), ofMembers_of_group shown,
        drawn, replaceAt]
      refine congrArg (group key g) (ofItems_modify fun other other_eq => ?_)
      obtain rfl := Option.some.inj (item_eq.symm.trans other_eq)
      rw [ofRaw_replaceNode ids new (by rw [found]; rfl), Key.descend_cons, List.length_cons,
        Nat.add_assoc, Nat.add_comm 1]

/-- The preview of a value with another node at a place that is drawn is the preview of the value
with another element at that place, whatever ids either is given. -/
theorem ofJson_replaceDrawn {raw new : Json} {place : List Nat} (given : raw.drawnRoot.NoNullIds)
    (given_new : new.NoNullIds) (below : place ≠ []) (ids ids' source : Key → String)
    (there : ((ofJson ids raw).at? place).isSome) :
    ofJson ids' (raw.replaceDrawn place new) =
      (ofJson ids raw).replaceAt place (ofRaw source (.ofPlace place) place.length new) := by
  have same : ofJson ids raw = ofJson ids' raw := ofRaw_of_noNullIds given ids ids'
  have fresh_eq : ofRaw source (.ofPlace place) place.length new =
      ofRaw ids' (Key.root.descend place) (0 + place.length) new := by
    rw [Nat.zero_add]
    exact ofRaw_of_noNullIds given_new source ids'
  rw [same] at there ⊢
  rw [fresh_eq]
  calc ofJson ids' (raw.replaceDrawn place new)
      = ofRaw ids' .root 0 (raw.drawnRoot.replaceNode place new) :=
        congrArg (ofRaw ids' .root 0) (Json.drawnRoot_replaceDrawn below)
    _ = _ := ofRaw_replaceNode ids' new there

/-- At whatever key below the root another node is put, the preview is the same but for what is
drawn at that key. The groups above are the same and have as many children, and at all other places
there is what was there. What is drawn at the key is the drawing of the new node there and at that
depth, whatever the tree around it is and whatever ids either preview is given. -/
theorem fault_stays_in_its_node {raw : Json} (given : raw.drawnRoot.NoNullIds) {ids : Key → String}
    {element : Element} (drawn : element ∈ (ofJson ids raw).descendants)
    (below : element.key ≠ .root) :
    ∃ place, element.key = .ofPlace place ∧
      ∀ new : Json, new.NoNullIds → ∀ ids' source : Key → String,
        let changed := raw.replaceDrawn place new
        let fresh := ofRaw source element.key place.length new
        changed.drawnRoot.NodeAt element.key new ∧
        ofJson ids' changed = (ofJson ids raw).replaceAt place fresh ∧
        (ofJson ids' changed).at? place = some fresh ∧
        (∀ other, ¬ place <+: other → ¬ other <+: place →
          (ofJson ids' changed).at? other = (ofJson ids raw).at? other) ∧
        ∀ above key g children, above <+: place → above ≠ place →
          (ofJson ids raw).at? above = some (group key g children) →
          ∃ children', (ofJson ids' changed).at? above = some (group key g children') ∧
            children'.length = children.length := by
  obtain ⟨place, found⟩ := mem_descendants_iff_at?.1 drawn
  obtain ⟨node, (node_eq : raw.drawnRoot.nodeAt? place = some node), -, element_eq⟩ :=
    at?_ofRaw found
  have key_eq : element.key = .ofPlace place := by
    rw [element_eq, key_ofRaw]
    rfl
  have deeper : place ≠ [] := by
    rintro rfl
    exact below key_eq
  refine ⟨place, key_eq, fun new given_new ids' source => ?_⟩
  intro changed fresh
  have there : ((ofJson ids raw).at? place).isSome := by
    rw [found]
    rfl
  have replaced : ofJson ids' changed = (ofJson ids raw).replaceAt place fresh := by
    rw [show fresh = ofRaw source (.ofPlace place) place.length new by rw [← key_eq]]
    exact ofJson_replaceDrawn given given_new deeper ids ids' source there
  refine ⟨⟨place, key_eq, ?_⟩, replaced, ?_, ?_, ?_⟩
  · rw [Json.drawnRoot_replaceDrawn deeper]
    exact Json.nodeAt?_replaceNode_self new (by rw [node_eq]; rfl)
  · rw [replaced, at?_replaceAt_self fresh there]
  · intro other not_above not_below
    rw [replaced, at?_replaceAt_of_apart fresh not_above not_below]
  · intro above key g children isAbove differ above_eq
    rw [replaced]
    exact at?_replaceAt_above fresh isAbove differ above_eq

/-- Where a text of a card gives way to a node of unknown type the card keeps its other text. -/
theorem slider_leaves_its_neighbour :
    let text (content : String) : Json :=
      .object [("type", .string "text"), ("content", .string content)]
    let slider : Json := .object [("type", .string "slider"), ("children", .bool true)]
    let card (children : List Json) : Json :=
      .object [("root", .object [("type", .string "card"), ("children", .array children)])]
    let raw := card [text "one", text "two"]
    let first := leaf (Key.root.child 0) (.text ⟨"root.children.0", "one", .p⟩)
    let second := leaf (Key.root.child 1) (.text ⟨"root.children.1", "two", .p⟩)
    raw.drawnRoot.NoNullIds ∧ first ∈ (ofJson Key.text raw).descendants ∧ first.key ≠ .root ∧
      slider.NoNullIds ∧
      ofJson (fun _ => "new") (card [slider, text "two"]) = group .root (.card ⟨"root", 16⟩)
        [placeholder (Key.root.child 0) (.unsupported "slider"), second] := by
  intro text slider card raw first second
  have drawing : ofJson Key.text raw = group .root (.card ⟨"root", 16⟩) [first, second] := rfl
  have drawn : first ∈ (ofJson Key.text raw).descendants := by simp [drawing, descendants,
    descendantsOf, first]
  have below : first.key ≠ .root := by decide
  have childless {members : Members} (own : members.get? "id" ≠ some .null)
      (unlisted : ∀ items, members.present? "children" ≠ some (.array items)) :
      (Json.object members).NoNullIds := by
    refine .of_children own fun items listed item mem => ?_
    cases listed with
    | unset => cases mem
    | array array => exact absurd array (unlisted items)
  have given_text (content : String) : (text content).NoNullIds := childless nofun nofun
  have given_slider : slider.NoNullIds := childless nofun (fun _ => nofun)
  have given : raw.drawnRoot.NoNullIds := by
    refine .of_children nofun fun items listed item mem => ?_
    obtain rfl := listed.unique (.array rfl)
    have isText : item = text "one" ∨ item = text "two" := by simpa using mem
    rcases isText with rfl | rfl <;> exact given_text _
  obtain ⟨place, key_eq, isolated⟩ := fault_stays_in_its_node given drawn below
  obtain rfl : [0] = place := Key.ofPlace_injective key_eq
  obtain ⟨-, replaced, -⟩ := isolated slider given_slider (fun _ => "new") (fun _ => "new")
  refine ⟨given, drawn, below, given_slider, ?_⟩
  calc ofJson (fun _ => "new") (card [slider, text "two"])
      = ofJson (fun _ => "new") (raw.replaceDrawn [0] slider) := rfl
    _ = _ := replaced
    _ = _ := by rw [drawing]; rfl

end Element

end Wireframe
