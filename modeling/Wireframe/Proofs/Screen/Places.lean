import Wireframe.Proofs.Screen.Keyed
import Wireframe.Proofs.Screen.Placeholders

/-!
# Places in trees

A place is the list of the indices of children that lead to it from the top of a tree. Raw values
and drawings have the same places as far as a drawing goes : what is drawn at a place is the raw
node at that place, with the key of the place (`Element.at?_ofRaw`). Different places have different
keys (`Key.descend_injective`), so a raw value has one node at most at each key
(`Json.NodeAt.unique`).

A tree is changed at a place by `Json.replaceNode` and `Element.replaceAt`. Nothing is different
after it at places that are neither above nor below (`Element.at?_replaceAt_of_apart`), and groups
above keep all but the one child (`Element.at?_replaceAt_above`).
-/

namespace Wireframe

/-! ## Keys of places -/

namespace Key

/-- The key of a place below a key. -/
def descend (key : Key) (place : List Nat) : Key :=
  place.foldl child key

/-- The key of a place in a document. -/
def ofPlace (place : List Nat) : Key :=
  root.descend place

@[simp] theorem descend_nil (key : Key) : key.descend [] = key :=
  rfl

@[simp] theorem descend_cons (key : Key) (i : Nat) (place : List Nat) :
    key.descend (i :: place) = (key.child i).descend place :=
  rfl

theorem below_descend (key : Key) (place : List Nat) : key.Below (key.descend place) := by
  induction place generalizing key with
  | nil => exact key.below_self
  | cons i place ih => exact (ih (key.child i)).of_child

/-- Different places below a key have different keys. -/
theorem descend_injective (key : Key) : Function.Injective key.descend := by
  intro place other same
  induction place generalizing key other with
  | nil =>
    cases other with
    | nil => rfl
    | cons j other =>
      have below : (key.child j).Below key := by
        have deeper := (key.child j).below_descend other
        rwa [← descend_cons, ← same] at deeper
      exact absurd below (key.not_below_child j)
  | cons i place ih =>
    cases other with
    | nil =>
      have below : (key.child i).Below key := by
        have deeper := (key.child i).below_descend place
        rwa [← descend_cons, same] at deeper
      exact absurd below (key.not_below_child i)
    | cons j other =>
      obtain rfl : i = j := by
        refine ((key.child i).below_descend place).index_eq ?_
        rw [← descend_cons, same]
        exact (key.child j).below_descend other
      rw [ih (key.child i) same]

theorem ofPlace_injective : Function.Injective ofPlace :=
  root.descend_injective

end Key

/-! ## Elements -/

namespace Face

/-- The id of the leaf that is drawn. -/
def id : Face → String
  | text fields => fields.id
  | input fields => fields.id
  | button fields => fields.id
  | image fields => fields.id

/-- The type of the leaf that is drawn. -/
def type : Face → NodeType
  | text _ => .text
  | input _ => .input
  | button _ => .button
  | image _ => .image

end Face

namespace Element

/-- The id of the node that is drawn, none for a placeholder. -/
def id? : Element → Option String
  | leaf _ face => some face.id
  | group _ g _ => some g.id
  | placeholder _ _ => none

/-- The type of the node that is drawn, none for a placeholder. -/
def type? : Element → Option NodeType
  | leaf _ face => some face.type
  | group _ g _ => some g.type
  | placeholder _ _ => none

@[simp] theorem id_drawLeaf (mount : Option Mount) (key : Key) (l : Leaf) :
    (drawLeaf mount key l).id = l.id := by
  cases l <;> rfl

@[simp] theorem type_drawLeaf (mount : Option Mount) (key : Key) (l : Leaf) :
    (drawLeaf mount key l).type = l.type := by
  cases l <;> rfl

/-! ## Elements at places -/

/-- The element at a place of a drawing. -/
def at? (element : Element) : List Nat → Option Element
  | [] => some element
  | i :: place => element.children[i]?.bind fun child => child.at? place

/-- A drawing with another element at a place. Where there is no such place nothing changes. -/
def replaceAt : Element → List Nat → Element → Element
  | _, [], new => new
  | group key g children, i :: place, new =>
    group key g (children.modify i fun child => child.replaceAt place new)
  | leaf key face, _ :: _, _ => leaf key face
  | placeholder key p, _ :: _, _ => placeholder key p

variable {element child : Element} {i : Nat} {place other : List Nat}

@[simp] theorem at?_nil (element : Element) : element.at? [] = some element :=
  rfl

theorem at?_cons_eq_some_iff : element.at? (i :: place) = some child ↔
    ∃ c, element.children[i]? = some c ∧ c.at? place = some child := by
  simp [at?, Option.bind_eq_some_iff]

@[simp] theorem replaceAt_nil (element new : Element) : element.replaceAt [] new = new := by
  cases element <;> rfl

theorem children_replaceAt (element new : Element) (i : Nat) (place : List Nat) :
    (element.replaceAt (i :: place) new).children =
      element.children.modify i fun child => child.replaceAt place new := by
  cases element <;> simp [replaceAt, children]

/-- What has no children is only at its own place. -/
theorem exists_at?_iff_of_childless (childless : element.children = []) :
    (∃ place, element.at? place = some child) ↔ child = element := by
  constructor
  · rintro ⟨_ | ⟨i, place⟩, found⟩
    · exact (Option.some.inj found).symm
    · simp [at?, childless] at found
  · rintro rfl
    exact ⟨[], rfl⟩

mutual

/-- The elements of a drawing are those at its places. -/
theorem mem_descendants_iff_at? : ∀ {element e : Element},
    e ∈ element.descendants ↔ ∃ place, element.at? place = some e
  | leaf key face, e => by
    rw [descendants, List.mem_singleton, exists_at?_iff_of_childless rfl]
  | placeholder key p, e => by
    rw [descendants, List.mem_singleton, exists_at?_iff_of_childless rfl]
  | group key g elements, e => by
    rw [descendants, List.mem_cons, mem_descendantsOf_iff_at?]
    constructor
    · rintro (rfl | ⟨i, c, child_eq, place, found⟩)
      · exact ⟨[], rfl⟩
      · exact ⟨i :: place, at?_cons_eq_some_iff.2 ⟨c, child_eq, found⟩⟩
    · rintro ⟨_ | ⟨i, place⟩, found⟩
      · exact .inl (Option.some.inj found).symm
      · obtain ⟨c, child_eq, found⟩ := at?_cons_eq_some_iff.1 found
        exact .inr ⟨i, c, child_eq, place, found⟩

theorem mem_descendantsOf_iff_at? : ∀ {elements : List Element} {e : Element},
    e ∈ descendantsOf elements ↔ ∃ (i : Nat) (c : Element),
      elements[i]? = some c ∧ ∃ place, c.at? place = some e
  | [], e => by simp [descendantsOf]
  | first :: rest, e => by
    rw [descendantsOf, List.mem_append, mem_descendants_iff_at?, mem_descendantsOf_iff_at?]
    constructor
    · rintro (⟨place, found⟩ | ⟨i, c, child_eq, found⟩)
      · exact ⟨0, first, rfl, place, found⟩
      · exact ⟨i + 1, c, child_eq, found⟩
    · rintro ⟨_ | i, c, child_eq, found⟩
      · obtain rfl : first = c := by simpa using child_eq
        exact .inl found
      · exact .inr ⟨i, c, by simpa using child_eq, found⟩

end

/-- What was put at a place of a drawing is there. -/
theorem at?_replaceAt_self (new : Element) : ∀ {place : List Nat} {element : Element},
    (element.at? place).isSome → (element.replaceAt place new).at? place = some new
  | [], element, _ => by rw [replaceAt_nil, at?_nil]
  | i :: place, element, there => by
    obtain ⟨e, found⟩ := Option.isSome_iff_exists.1 there
    obtain ⟨c, child_eq, found⟩ := at?_cons_eq_some_iff.1 found
    refine at?_cons_eq_some_iff.2 ⟨c.replaceAt place new, ?_, ?_⟩
    · rw [children_replaceAt, List.getElem?_modify, child_eq]
      simp
    · exact at?_replaceAt_self new (by simp [found])

/-- At a place that is neither above nor below the changed one nothing is different. -/
theorem at?_replaceAt_of_apart (new : Element) : ∀ {place other : List Nat} {element : Element},
    ¬ place <+: other → ¬ other <+: place →
      (element.replaceAt place new).at? other = element.at? other
  | [], _, _, not_above, _ => absurd List.nil_prefix not_above
  | _ :: _, [], _, _, not_below => absurd List.nil_prefix not_below
  | i :: place, j :: other, element, not_above, not_below => by
    rw [at?, at?, children_replaceAt, List.getElem?_modify]
    by_cases same : i = j
    · subst same
      cases element.children[i]? with
      | none => rfl
      | some c =>
        simp only [List.cons_prefix_cons, true_and] at not_above not_below
        simpa using at?_replaceAt_of_apart new not_above not_below
    · simp [same]

/-- What is above a changed place is the same group, with as many children. -/
theorem at?_replaceAt_above (new : Element) : ∀ {place other : List Nat} {element : Element}
    {key : Key} {g : Group} {children : List Element}, other <+: place → other ≠ place →
      element.at? other = some (group key g children) →
      ∃ children', (element.replaceAt place new).at? other = some (group key g children') ∧
        children'.length = children.length
  | [], [], _, _, _, _, _, differ, _ => absurd rfl differ
  | [], _ :: _, _, _, _, _, above, _, _ => absurd (List.prefix_nil.1 above) (by simp)
  | i :: place, [], element, key, g, children, _, _, found => by
    obtain rfl : element = group key g children := Option.some.inj found
    exact ⟨_, rfl, List.length_modify ..⟩
  | i :: place, j :: other, element, key, g, children, above, differ, found => by
    obtain ⟨rfl, within⟩ := List.cons_prefix_cons.1 above
    obtain ⟨c, child_eq, found⟩ := at?_cons_eq_some_iff.1 found
    have deeper : other ≠ place := fun same => differ (congrArg _ same)
    obtain ⟨children', found', length_eq⟩ := at?_replaceAt_above new within deeper found
    refine ⟨children', at?_cons_eq_some_iff.2 ⟨_, ?_, found'⟩, length_eq⟩
    rw [children_replaceAt, List.getElem?_modify, child_eq]
    simp

end Element

/-! ## Raw nodes at places -/

theorem Members.present?_put_array (members : Members) (name : String) (items : List Json) :
    (members.put name (.array items)).present? name = some (.array items) := by
  rw [present?, get?_put, if_pos rfl]

namespace Json

/-- The items that are taken for the children of a raw node. -/
def childItems : Json → List Json
  | .object members =>
    match Members.present? members "children" with
    | some (.array items) => items
    | _ => []
  | _ => []

/-- The raw node that a preview of a raw value begins with : its root, or else the value itself. -/
def drawnRoot (raw : Json) : Json :=
  (raw.get? "root").getD raw

/-- The raw node at a place. -/
def nodeAt? (raw : Json) : List Nat → Option Json
  | [] => some raw
  | i :: place => raw.childItems[i]?.bind fun item => item.nodeAt? place

/-- A raw tree with another node at a place. Where there is no such place nothing changes. -/
def replaceNode (raw : Json) : List Nat → Json → Json
  | [], new => new
  | i :: place, new =>
    match raw with
    | .object members =>
      match Members.present? members "children" with
      | some (.array items) =>
        .object (Members.put members "children"
          (.array (items.modify i fun item => item.replaceNode place new)))
      | _ => raw
    | _ => raw

/-- A raw value is drawn as a node by its members, or cannot be a node. -/
theorem isNode_or (bound depth : Nat) (raw : Json) :
    (depth ≤ bound ∧ ∃ members, raw = .object members) ∨
      (bound < depth ∨ ∀ members, raw ≠ .object members) := by
  rw [← not_exists, ← Nat.not_le, ← not_and_or]
  exact Classical.em _

/-- The raw node at the key of a place. -/
def NodeAt (raw : Json) (key : Key) (node : Json) : Prop :=
  ∃ place, key = .ofPlace place ∧ raw.nodeAt? place = some node

/-- There is one raw node at most at each key. -/
theorem NodeAt.unique {raw node node' : Json} {key : Key} (here : raw.NodeAt key node)
    (here' : raw.NodeAt key node') : node = node' := by
  obtain ⟨place, rfl, found⟩ := here
  obtain ⟨place', same, found'⟩ := here'
  obtain rfl := Key.ofPlace_injective same
  exact Option.some.inj (found.symm.trans found')

theorem nodeAt?_cons_eq_some_iff {raw node : Json} {i : Nat} {place : List Nat} :
    raw.nodeAt? (i :: place) = some node ↔
      ∃ item, raw.childItems[i]? = some item ∧ item.nodeAt? place = some node := by
  simp [nodeAt?, Option.bind_eq_some_iff]

/-- Where there is an item the children are an array. -/
theorem exists_array_of_childItems {raw item : Json} {i : Nat}
    (item_eq : raw.childItems[i]? = some item) :
    ∃ members, raw = .object members ∧
      Members.present? members "children" = some (.array raw.childItems) := by
  cases raw with
  | object members =>
    refine ⟨members, rfl, ?_⟩
    rw [childItems] at item_eq ⊢
    split at item_eq
    · next array => exact array
    · simp at item_eq
  | _ => simp [childItems] at item_eq

theorem childItems_put (members : Members) (items : List Json) :
    (object (members.put "children" (.array items))).childItems = items := by
  rw [childItems, Members.present?_put_array]

end Json

theorem ChildItems.childItems_eq {members : Members} {items : List Json}
    (children : ChildItems members items) : (Json.object members).childItems = items := by
  cases children with
  | unset unset => rw [Json.childItems, unset]
  | array array => rw [Json.childItems, array]

/-! ## Raw nodes and what is drawn -/

namespace Element

variable {ids : Key → String} {key : Key} {depth : Nat} {raw : Json}

theorem nameGroup_of_shows {members : Members} {g : Group}
    (shown : Node.Shows (fun _ => ids key) .top (alone key members) (.group g [])) :
    members.NameGroup :=
  ⟨_, (admits_alone.1 shown.admits).nodeType?_eq, g.isGroup_type⟩

/-- What is drawn has no children, or is a group with all items as its children. -/
theorem ofRaw_cases (ids : Key → String) (key : Key) (depth : Nat) (raw : Json) :
    (ofRaw ids key depth raw).children = [] ∨
      ∃ members g, raw = .object members ∧ depth ≤ defaultMaxDepth ∧
        Node.Shows (fun _ => ids key) .top (alone key members) (.group g []) ∧
        ofRaw ids key depth raw = group key g (ofItems ids key (depth + 1) 0 raw.childItems) := by
  rcases raw.isNode_or defaultMaxDepth depth with ⟨within, members, rfl⟩ | not_node
  · rw [ofRaw_object within]
    have spec := ofMembers_spec ids key members (ofChildren ids key depth members)
    generalize ofMembers ids key members (ofChildren ids key depth members) = element at spec
    generalize drawn_eq : ofChildren ids key depth members = drawn at spec
    cases spec with
    | refused | leaf | unlisted => exact .inl rfl
    | @group children g shown =>
      refine .inr ⟨members, g, rfl, within, shown, ?_⟩
      by_cases listed : ∃ items, ChildItems members items
      · obtain ⟨items, listed⟩ := listed
        rw [ofChildren_of_items listed] at drawn_eq
        rw [listed.childItems_eq, Option.some.inj drawn_eq]
      · rw [ofChildren_of_unlisted (not_exists.1 listed)] at drawn_eq
        cases drawn_eq
  · obtain ⟨p, drawn⟩ := ofRaw_of_not_node ids key depth raw not_node
    rw [drawn]
    exact .inl rfl

theorem key_ofMembers (ids : Key → String) (key : Key) (members : Members)
    (drawn : Option (List Element)) : (ofMembers ids key members drawn).key = key := by
  have spec := ofMembers_spec ids key members drawn
  generalize ofMembers ids key members drawn = element at spec
  cases spec <;> rfl

/-- What is drawn for a raw node has the key of the node. -/
theorem key_ofRaw (ids : Key → String) (key : Key) (depth : Nat) (raw : Json) :
    (ofRaw ids key depth raw).key = key := by
  by_cases deep : defaultMaxDepth < depth <;> cases raw <;>
    simp only [ofRaw, deep, if_true, if_false, key_ofMembers] <;> rfl

theorem getElem?_ofItems (ids : Key → String) (parent : Key) (depth : Nat) :
    ∀ (index : Nat) (items : List Json) (i : Nat), (ofItems ids parent depth index items)[i]? =
      items[i]?.map (ofRaw ids (parent.child (index + i)) depth)
  | _, [], _ => by simp [ofItems]
  | index, item :: rest, 0 => by simp [ofItems]
  | index, item :: rest, i + 1 => by
    rw [ofItems, List.getElem?_cons_succ, List.getElem?_cons_succ,
      getElem?_ofItems ids parent depth (index + 1) rest i,
      show index + 1 + i = index + (i + 1) by omega]

/-- The drawn children of a raw node are its items, where there are any. -/
theorem children_ofRaw {i : Nat} {c : Element}
    (child_eq : (ofRaw ids key depth raw).children[i]? = some c) :
    ∃ members item, raw = .object members ∧ Members.NameGroup members ∧
      raw.childItems[i]? = some item ∧ c = ofRaw ids (key.child i) (depth + 1) item := by
  rcases ofRaw_cases ids key depth raw with childless | ⟨members, g, object, -, shown, drawn⟩
  · simp [childless] at child_eq
  · rw [drawn, children, getElem?_ofItems, Option.map_eq_some_iff, Nat.zero_add] at child_eq
    obtain ⟨item, item_eq, rfl⟩ := child_eq
    exact ⟨members, item, object, nameGroup_of_shows shown, item_eq, rfl⟩

/-- What is drawn at a place is the raw node at that place, with the key of the place. -/
theorem at?_ofRaw : ∀ {place : List Nat} {key : Key} {depth : Nat} {raw : Json} {e : Element},
    (ofRaw ids key depth raw).at? place = some e →
      ∃ node, raw.nodeAt? place = some node ∧ raw.RawNode node ∧
        e = ofRaw ids (key.descend place) (depth + place.length) node
  | [], key, depth, raw, e, found => ⟨raw, rfl, .self, (Option.some.inj found).symm⟩
  | i :: place, key, depth, raw, e, found => by
    obtain ⟨c, child_eq, found⟩ := at?_cons_eq_some_iff.1 found
    obtain ⟨members, item, rfl, nameGroup, item_eq, rfl⟩ := children_ofRaw child_eq
    obtain ⟨node, node_eq, isNode, rfl⟩ := at?_ofRaw found
    refine ⟨node, Json.nodeAt?_cons_eq_some_iff.2 ⟨item, item_eq, node_eq⟩, ?_, ?_⟩
    · obtain ⟨_, same, array⟩ := Json.exists_array_of_childItems item_eq
      obtain rfl := Json.object.inj same
      exact isNode.of_child nameGroup (.array array) (List.mem_of_getElem? item_eq)
    · rw [Key.descend_cons, List.length_cons, Nat.add_assoc, Nat.add_comm 1]

end Element

end Wireframe
