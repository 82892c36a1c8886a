import Wireframe.Document.Basic

/-!
# Instance keys

Two nodes of a document may have one id. What tells them apart is their place, written as an
instance key: `root` for the root, and for the child with index `i` the key of its parent
followed by `.children.` and `i`. `Node.keyed` pairs all nodes with their keys in pre-order,
`Node.walk` visits them one by one, and `Node.keyOf?` stops at the first with an id.
-/

namespace Wireframe

/-- The place of a node in its document. -/
structure Key where
  text : String
deriving DecidableEq

namespace Key

/-- The key of the root. -/
def root : Key :=
  ⟨"root"⟩

/-- The key of a child. -/
def child (k : Key) (index : Nat) : Key :=
  ⟨k.text ++ ".children." ++ String.ofList (Layout.digitChars index)⟩

end Key

namespace Node

mutual

/-- A node at a key and all below it, with their keys, in pre-order. -/
def keyed (key : Key) : Node → List (Key × Node)
  | leaf l => [(key, leaf l)]
  | group g children => (key, group g children) :: keyedChildren key 0 children

/-- Children from an index on and all below them, with their keys. -/
def keyedChildren (parent : Key) (index : Nat) : List Node → List (Key × Node)
  | [] => []
  | node :: rest => keyed (parent.child index) node ++ keyedChildren parent (index + 1) rest

end

section Walk

variable {σ : Type} (visit : σ → Key → Node → σ)

mutual

/-- A state after visits to a node at a key and to all below it, in pre-order. -/
def walk (state : σ) (key : Key) : Node → σ
  | leaf l => visit state key (leaf l)
  | group g children => walkChildren (visit state key (group g children)) key 0 children

/-- A state after visits to children from an index on and to all below them. -/
def walkChildren (state : σ) (parent : Key) (index : Nat) : List Node → σ
  | [] => state
  | node :: rest => walkChildren (walk state (parent.child index) node) parent (index + 1) rest

end

end Walk

mutual

/-- The key of the first with that id among a node at a key and all below it, in pre-order. -/
def keyOf? (id : String) (key : Key) : Node → Option Key
  | leaf l => if l.id = id then some key else none
  | group g children => if g.id = id then some key else keyOfChild? id key 0 children

/-- The key of the first with that id among children from an index on and all below them. -/
def keyOfChild? (id : String) (parent : Key) (index : Nat) : List Node → Option Key
  | [] => none
  | node :: rest =>
    match keyOf? id (parent.child index) node with
    | some key => some key
    | none => keyOfChild? id parent (index + 1) rest

end

end Node

namespace Document

/-- All nodes with their keys in pre-order. -/
def keyedNodes (d : Document) : List (Key × Node) :=
  d.root.keyed .root

/-- The key of the first node with that id, in pre-order. -/
def keyOf? (d : Document) (id : String) : Option Key :=
  d.root.keyOf? id .root

end Document

end Wireframe
