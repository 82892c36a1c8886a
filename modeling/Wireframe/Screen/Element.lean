import Wireframe.Screen.Mount

/-!
# Drawn screens

A screen is drawn as a tree of elements, one for each node, each with the key of its node.
`Element.ofDocument` draws a valid document; with a mount the widgets show their state, without
one they are drawn as freshly mounted. Placeholders stand for nodes that cannot be drawn; a
valid document has none.
-/

namespace Wireframe

/-- An input as it is drawn. -/
structure DrawnInput where
  id : String
  name : String
  label : Option String
  placeholder : Option String
  mode : InputKind
  value : String
  /-- The state of the reveal control, if one is shown. -/
  reveal : Option Reveal
deriving DecidableEq

/-- A button as it is drawn. -/
structure DrawnButton where
  id : String
  text : String
  variant : ButtonVariant
  state : ButtonState
deriving DecidableEq

/-- A leaf as it is drawn. -/
inductive Face where
  | text (fields : Text)
  | input (fields : DrawnInput)
  | button (fields : DrawnButton)
  | image (fields : Image)
deriving DecidableEq

/-- What stands for a node that cannot be drawn. -/
inductive Placeholder where
  /-- The type of the node is not known. -/
  | unsupported (typeName : String)
  /-- Something is wrong with the node. -/
  | invalid (typeName message : String)
deriving DecidableEq

/-- A drawn node and all below it. -/
inductive Element where
  | leaf (key : Key) (face : Face)
  | group (key : Key) (group : Group) (children : List Element)
  | placeholder (key : Key) (placeholder : Placeholder)

namespace Element

/-- The key of an element. -/
def key : Element → Key
  | leaf key _ => key
  | group key _ _ => key
  | placeholder key _ => key

/-- The drawn children. -/
def children : Element → List Element
  | group _ _ children => children
  | leaf _ _ | placeholder _ _ => []

mutual

/-- The element and all below it in pre-order. -/
def descendants : Element → List Element
  | leaf key face => [leaf key face]
  | group key g children => group key g children :: descendantsOf children
  | placeholder key p => [placeholder key p]

/-- Several elements and all below them in pre-order. -/
def descendantsOf : List Element → List Element
  | [] => []
  | element :: rest => descendants element ++ descendantsOf rest

end

mutual

/-- Whether the element or one below it is a placeholder. -/
def hasFaults : Element → Bool
  | leaf _ _ => false
  | group _ _ children => anyFaults children
  | placeholder _ _ => true

/-- Whether one of the elements or one below them is a placeholder. -/
def anyFaults : List Element → Bool
  | [] => false
  | element :: rest => hasFaults element || anyFaults rest

end

/-- An input with the state of its widget, or as freshly mounted. -/
def drawInput (mount : Option Mount) (key : Key) (i : Input) : DrawnInput :=
  let live := match mount.map fun m => m.input key with
    | some (.ok live) => live
    | _ => .fresh i
  ⟨i.id, i.name, i.label, i.placeholder, i.kind, live.value, live.reveal⟩

/-- A button with the state of its widget, or idle. -/
def drawButton (mount : Option Mount) (key : Key) (b : Button) : DrawnButton :=
  let state := match mount.map fun m => m.buttonState key with
    | some (.ok state) => state
    | _ => .idle
  ⟨b.id, b.text, b.variant, state⟩

/-- A leaf at a key. -/
def drawLeaf (mount : Option Mount) (key : Key) : Leaf → Face
  | .text t => .text t
  | .input i => .input (drawInput mount key i)
  | .button b => .button (drawButton mount key b)
  | .image i => .image i

mutual

/-- A node at a key and all below it. -/
def ofNode (mount : Option Mount) (key : Key) : Node → Element
  | .leaf l => leaf key (drawLeaf mount key l)
  | .group g children => group key g (ofNodes mount key 0 children)

/-- The children of the node at a key, from an index on. -/
def ofNodes (mount : Option Mount) (parent : Key) (index : Nat) : List Node → List Element
  | [] => []
  | node :: rest =>
    ofNode mount (parent.child index) node :: ofNodes mount parent (index + 1) rest

end

/-- A document, live with a mount. -/
def ofDocument (d : Document) (mount : Option Mount) : Element :=
  ofNode mount .root d.root

end Element

end Wireframe
