import Wireframe.Proofs.Screen.Live
import Wireframe.Proofs.Screen.Places
import Wireframe.Screen.Accessibility

/-!
# Walks through a document

A document is gone through by the search for an id, by its drawing, by its accessibility report and
when its widgets are put in place, each time with the indices of children handed down into keys.
All of them meet the same nodes at the same keys in the same order (`Document.walks_agree`), those
of `Document.keyedNodes`, which are the nodes at the places of the document, each with the key of
its place (`Node.mem_keyed_iff`).
-/

namespace Wireframe

/-! ## Nodes at places -/

namespace Node

/-- The node at a place of a tree. -/
def at? (node : Node) : List Nat → Option Node
  | [] => some node
  | i :: place => node.children[i]?.bind fun child => child.at? place

/-- Whether the node takes the focus. -/
def takesFocus (node : Node) : Bool :=
  node.type = .input || node.type = .button

/-- Whether the node is an image whose alternative text is blank. -/
def lacksAlt : Node → Bool
  | leaf (.image i) => Chars.isBlankText i.alt
  | _ => false

/-- Whether the node is an input whose label is absent or blank. -/
def lacksLabel : Node → Bool
  | leaf (.input i) => i.label.all Chars.isBlankText
  | _ => false

mutual

/-- The nodes with keys are those at places, with the keys of the places. -/
theorem mem_keyed_iff {key : Key} {entry : Key × Node} : ∀ {node : Node},
    entry ∈ keyed key node ↔
      ∃ place, key.descend place = entry.1 ∧ node.at? place = some entry.2
  | .leaf l => by
    rw [keyed, List.mem_singleton]
    constructor
    · rintro rfl
      exact ⟨[], rfl, rfl⟩
    · rintro ⟨_ | ⟨i, place⟩, key_eq, node_eq⟩
      · exact Prod.ext key_eq.symm (Option.some.inj node_eq).symm
      · simp [at?, children] at node_eq
  | .group g children => by
    rw [keyed, List.mem_cons, mem_keyedChildren_iff]
    constructor
    · rintro (rfl | ⟨i, place, key_eq, node_eq⟩)
      · exact ⟨[], rfl, rfl⟩
      · rw [Nat.zero_add] at key_eq
        exact ⟨i :: place, key_eq, node_eq⟩
    · rintro ⟨_ | ⟨i, place⟩, key_eq, node_eq⟩
      · exact .inl (Prod.ext key_eq.symm (Option.some.inj node_eq).symm)
      · refine .inr ⟨i, place, ?_, node_eq⟩
        rw [Nat.zero_add]
        exact key_eq

theorem mem_keyedChildren_iff {parent : Key} {entry : Key × Node} : ∀ {children : List Node}
    {index : Nat}, entry ∈ keyedChildren parent index children ↔
      ∃ i place, (parent.child (index + i)).descend place = entry.1 ∧
        (children[i]?.bind fun child => child.at? place) = some entry.2
  | [], _ => by simp [keyedChildren]
  | node :: rest, index => by
    rw [keyedChildren, List.mem_append, mem_keyed_iff, mem_keyedChildren_iff]
    constructor
    · rintro (⟨place, key_eq, node_eq⟩ | ⟨i, place, key_eq, node_eq⟩)
      · exact ⟨0, place, key_eq, node_eq⟩
      · refine ⟨i + 1, place, ?_, node_eq⟩
        rw [← key_eq, show index + (i + 1) = index + 1 + i by omega]
    · rintro ⟨_ | i, place, key_eq, node_eq⟩
      · exact .inl ⟨place, key_eq, node_eq⟩
      · refine .inr ⟨i, place, ?_, node_eq⟩
        rw [← key_eq, show index + (i + 1) = index + 1 + i by omega]

end

/-! ## Nodes in order -/

mutual

theorem map_snd_keyed (key : Key) : ∀ node : Node, (keyed key node).map Prod.snd = node.descendants
  | .leaf _ => rfl
  | .group g children => by
    rw [keyed, descendants, List.map_cons, map_snd_keyedChildren key children]

theorem map_snd_keyedChildren (parent : Key) : ∀ (children : List Node) (index : Nat),
    (keyedChildren parent index children).map Prod.snd = descendantsOf children
  | [], _ => rfl
  | node :: rest, index => by
    rw [keyedChildren, descendantsOf, List.map_append, map_snd_keyed _ node,
      map_snd_keyedChildren parent rest]

end

variable {id : String}

mutual

/-- The search for an id finds the first node that has it. -/
theorem keyOf?_eq {key : Key} : ∀ {node : Node}, keyOf? id key node =
    ((keyed key node).find? fun entry => entry.2.id = id).map Prod.fst
  | .leaf l => by
    by_cases here : l.id = id <;> simp [keyOf?, keyed, Node.id, here]
  | .group g children => by
    by_cases here : g.id = id
    · simp [keyOf?, keyed, Node.id, here]
    · rw [keyOf?, keyed, if_neg here, keyOfChild?_eq,
        List.find?_cons_of_neg (by simp [Node.id, here])]

theorem keyOfChild?_eq {parent : Key} : ∀ {children : List Node} {index : Nat},
    keyOfChild? id parent index children =
      ((keyedChildren parent index children).find? fun entry => entry.2.id = id).map Prod.fst
  | [], _ => rfl
  | node :: rest, index => by
    rw [keyOfChild?, keyOf?_eq, keyOfChild?_eq, keyedChildren, List.find?_append]
    cases (keyed (parent.child index) node).find? fun entry => entry.2.id = id <;> rfl

end

end Node

/-! ## Drawings -/

namespace Element

/-- What tells which node an element draws. -/
def origin (element : Element) : Key × Option NodeType × Option String :=
  (element.key, element.type?, element.id?)

variable {mount : Option Mount}

mutual

/-- The nodes are drawn in their order, each as one element. -/
theorem map_origin_ofNode {key : Key} : ∀ {node : Node},
    (ofNode mount key node).descendants.map origin =
      (node.keyed key).map fun entry => (entry.1, some entry.2.type, some entry.2.id)
  | .leaf l => by
    simp [ofNode, descendants, Node.keyed, origin, Element.key, type?, id?, Node.type, Node.id]
  | .group g children => by
    rw [ofNode, descendants, Node.keyed, List.map_cons, List.map_cons, map_origin_ofNodes]
    rfl

theorem map_origin_ofNodes {parent : Key} : ∀ {children : List Node} {index : Nat},
    (descendantsOf (ofNodes mount parent index children)).map origin =
      (Node.keyedChildren parent index children).map fun entry =>
        (entry.1, some entry.2.type, some entry.2.id)
  | [], _ => rfl
  | node :: rest, index => by
    rw [ofNodes, descendantsOf, Node.keyedChildren, List.map_append, List.map_append,
      map_origin_ofNode, map_origin_ofNodes]

end

end Element

/-! ## Reports -/

/-- A partial function that is another one where a test succeeds. -/
theorem filterMap_eq_map_filter {α β : Type} {f : α → Option β} {test : α → Bool} {g : α → β}
    (eq : ∀ x, f x = if test x then some (g x) else none) (xs : List α) :
    xs.filterMap f = (xs.filter test).map g := by
  induction xs with
  | nil => rfl
  | cons x rest ih =>
    cases passes : test x <;> simp [eq, passes, ← ih]

namespace AccessibilityReport

/-- A report notes the nodes in their order. -/
theorem foldl_visit (entries : List (Key × Node)) (r : AccessibilityReport) :
    entries.foldl (fun r entry => r.visit entry.1 entry.2) r =
      { r with
        focusOrder := r.focusOrder ++ entries.filterMap fun entry => focusStop? entry.1 entry.2
        imagesMissingAlt := r.imagesMissingAlt ++
          entries.filterMap fun entry => imageMissingAlt? entry.2
        inputsMissingLabel := r.inputsMissingLabel ++
          entries.filterMap fun entry => inputMissingLabel? entry.2 } := by
  induction entries generalizing r with
  | nil => simp
  | cons entry rest ih =>
    rw [List.foldl_cons, ih, visit]
    simp only [List.append_assoc, List.filterMap_cons]
    congr 1 <;> split <;> simp [*]

variable (d : Document)

theorem ofDocument_eq : ofDocument d =
    { focusOrder := d.keyedNodes.filterMap fun entry => focusStop? entry.1 entry.2
      imagesMissingAlt := d.keyedNodes.filterMap fun entry => imageMissingAlt? entry.2
      inputsMissingLabel := d.keyedNodes.filterMap fun entry => inputMissingLabel? entry.2
      contrast := d.palette.bind Palette.textContrast } := by
  rw [ofDocument, Node.walk_eq_foldl, foldl_visit]
  rfl

/-- The focus goes through the inputs and buttons in their order. -/
theorem map_focusOrder :
    (ofDocument d).focusOrder.map (fun stop => (stop.key, stop.kind, stop.id)) =
      (d.keyedNodes.filter fun entry => entry.2.takesFocus).map fun entry =>
        (entry.1, entry.2.type, entry.2.id) := by
  rw [ofDocument_eq, List.map_filterMap]
  refine filterMap_eq_map_filter ?_ _
  rintro ⟨key, (_ | _ | _ | _) | ⟨(_ | _ | _), _⟩⟩ <;> rfl

/-- The images without alternative text in their order. -/
theorem imagesMissingAlt_ofDocument : (ofDocument d).imagesMissingAlt =
    (d.keyedNodes.filter fun entry => entry.2.lacksAlt).map fun entry => entry.2.id := by
  rw [ofDocument_eq]
  refine filterMap_eq_map_filter ?_ _
  rintro ⟨key, (_ | _ | _ | _) | ⟨(_ | _ | _), _⟩⟩ <;> rfl

/-- The inputs without label in their order. -/
theorem inputsMissingLabel_ofDocument : (ofDocument d).inputsMissingLabel =
    (d.keyedNodes.filter fun entry => entry.2.lacksLabel).map fun entry => entry.2.id := by
  rw [ofDocument_eq]
  refine filterMap_eq_map_filter ?_ _
  rintro ⟨key, (_ | _ | _ | _) | ⟨(_ | _ | _), _⟩⟩ <;> rfl

end AccessibilityReport

/-! ## Widgets -/

/-- The type of the nodes that have such a widget. -/
def Widget.type : Widget → NodeType
  | button _ => .button
  | input _ => .input
  | form => .form

/-- Whether the node is alive on a screen. -/
def Node.isLive (node : Node) : Bool :=
  node.type ∈ [.input, .button, .form]

theorem Widget.map_type_ofNode? (node : Node) :
    (ofNode? node).map type = if node.isLive then some node.type else none := by
  rcases node with (_ | _ | _ | _) | ⟨(_ | _ | _), _⟩ <;> rfl

/-- There is a widget of a type at the keys of the live nodes of that type. -/
theorem Mount.map_type_find?_ofDocument {d : Document} {key : Key} {type : NodeType} :
    ((ofDocument d).find? key).map Widget.type = some type ↔
      ∃ node, (key, node) ∈ d.keyedNodes ∧ node.isLive ∧ node.type = type := by
  rw [find?_ofDocument, Option.map_bind, Option.bind_eq_some_iff]
  refine exists_congr fun node => ?_
  rw [Document.nodeAt?_eq_some_iff, Function.comp_apply, Widget.map_type_ofNode?,
    Option.ite_none_right_eq_some, Option.some.injEq]

/-! ## All walks -/

namespace Document

/-- All walks through a document meet its nodes with the same keys in the same order, whatever ids
the nodes have. -/
theorem walks_agree (d : Document) (mount : Option Mount) :
    let met := d.keyedNodes
    let report := AccessibilityReport.ofDocument d
    (met.map Prod.fst).Nodup ∧
      (∀ key node, (key, node) ∈ met ↔
        ∃ place, Key.ofPlace place = key ∧ d.root.at? place = some node) ∧
      d.nodes = met.map Prod.snd ∧
      (Element.ofDocument d mount).descendants.map Element.origin =
        met.map (fun entry => (entry.1, some entry.2.type, some entry.2.id)) ∧
      report.focusOrder.map (fun stop => (stop.key, stop.kind, stop.id)) =
        (met.filter fun entry => entry.2.takesFocus).map
          (fun entry => (entry.1, entry.2.type, entry.2.id)) ∧
      report.imagesMissingAlt =
        (met.filter fun entry => entry.2.lacksAlt).map (fun entry => entry.2.id) ∧
      report.inputsMissingLabel =
        (met.filter fun entry => entry.2.lacksLabel).map (fun entry => entry.2.id) ∧
      (∀ key type, ((Mount.ofDocument d).find? key).map Widget.type = some type ↔
        ∃ node, (key, node) ∈ met ∧ node.isLive ∧ node.type = type) ∧
      ∀ id, d.keyOf? id = (met.find? fun entry => entry.2.id = id).map Prod.fst ∧
        d.find? id = (met.find? fun entry => entry.2.id = id).map Prod.snd := by
  intro met report
  have nodes_eq : d.nodes = met.map Prod.snd := (Node.map_snd_keyed .root d.root).symm
  refine ⟨d.nodup_keyedNodes, fun _ _ => Node.mem_keyed_iff, nodes_eq, Element.map_origin_ofNode,
    AccessibilityReport.map_focusOrder d, AccessibilityReport.imagesMissingAlt_ofDocument d,
    AccessibilityReport.inputsMissingLabel_ofDocument d,
    fun _ _ => Mount.map_type_find?_ofDocument, fun id => ⟨Node.keyOf?_eq, ?_⟩⟩
  rw [Document.find?, nodes_eq, List.find?_map]
  rfl

end Document

end Wireframe
