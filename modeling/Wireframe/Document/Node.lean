import Wireframe.Decimal.Double
import Wireframe.Document.Word

/-!
# Nodes

A screen is a tree. Its inner nodes, the *groups*, lay out children: a container along one
axis, a card in a bordered block, a form as the boundary of a submission. Its *leaves* show or
take something: text, input, button and image. Every field is filled in; what the written form
may leave out has been replaced by its default.

Nodes are visited in pre-order, which is also the order of the focus.
-/

namespace Wireframe

/-- The axis of a container. -/
inductive Direction where
  | vertical
  | horizontal
deriving DecidableEq

/-- The level of a text. -/
inductive TextVariant where
  | h1
  | h2
  | h3
  | p
  | label
deriving DecidableEq

/-- What an input takes. -/
inductive InputKind where
  | text
  | email
  | password
deriving DecidableEq

/-- The look of a button. -/
inductive ButtonVariant where
  | primary
  | secondary
  | link
deriving DecidableEq

instance : Choices Direction where
  all := [.vertical, .horizontal]
  word
    | .vertical => "vertical"
    | .horizontal => "horizontal"

instance : Choices TextVariant where
  all := [.h1, .h2, .h3, .p, .label]
  word
    | .h1 => "h1"
    | .h2 => "h2"
    | .h3 => "h3"
    | .p => "p"
    | .label => "label"

instance : Choices InputKind where
  all := [.text, .email, .password]
  word
    | .text => "text"
    | .email => "email"
    | .password => "password"

instance : Choices ButtonVariant where
  all := [.primary, .secondary, .link]
  word
    | .primary => "primary"
    | .secondary => "secondary"
    | .link => "link"

/-- The seven types of node. -/
inductive NodeType where
  | container
  | card
  | form
  | text
  | input
  | button
  | image
deriving DecidableEq

instance : Choices NodeType where
  all := [.container, .card, .form, .text, .input, .button, .image]
  word
    | .container => "container"
    | .card => "card"
    | .form => "form"
    | .text => "text"
    | .input => "input"
    | .button => "button"
    | .image => "image"

/-- Whether nodes of a type have children. -/
def NodeType.isGroup : NodeType → Bool
  | .container | .card | .form => true
  | .text | .input | .button | .image => false

/-- Children along one axis. -/
structure Container where
  id : String
  direction : Direction
  gap : Double
  padding : Double
deriving DecidableEq

/-- A bordered, rounded block. -/
structure Card where
  id : String
  padding : Double
deriving DecidableEq

/-- The boundary of a submission. -/
structure Form where
  id : String
deriving DecidableEq

/-- Literal text. -/
structure Text where
  id : String
  content : String
  variant : TextVariant
deriving DecidableEq

/-- A field to type into. -/
structure Input where
  id : String
  name : String
  label : Option String
  placeholder : Option String
  kind : InputKind
  showToggle : Bool
deriving DecidableEq

/-- A button that stays busy for a while after it was pressed. -/
structure Button where
  id : String
  text : String
  variant : ButtonVariant
  debounceMs : UInt64
deriving DecidableEq

/-- An image, its size optional. -/
structure Image where
  id : String
  src : String
  alt : String
  width : Option Double
  height : Option Double
  radius : Double
deriving DecidableEq

/-- A node with children, apart from the children. -/
inductive Group where
  | container (fields : Container)
  | card (fields : Card)
  | form (fields : Form)
deriving DecidableEq

/-- A node without children. -/
inductive Leaf where
  | text (fields : Text)
  | input (fields : Input)
  | button (fields : Button)
  | image (fields : Image)
deriving DecidableEq

/-- A node of a screen and all below it. -/
inductive Node where
  | leaf (leaf : Leaf)
  | group (group : Group) (children : List Node)

/-- Defaults of the fields that a document may leave out. -/
structure Defaults where
  gap : Double
  padding : Double
  inputName : String
  debounceMs : UInt64
  imageRadius : Double

/-- The documented defaults. -/
def defaults : Defaults where
  gap := 12
  padding := 16
  inputName := "field"
  debounceMs := 600
  imageRadius := 8

/-- Only a password field with its toggle enabled can be revealed. -/
def Input.hasRevealControl (i : Input) : Bool :=
  i.kind = .password && i.showToggle

namespace Group

/-- The id of a group. -/
def id : Group → String
  | container fields => fields.id
  | card fields => fields.id
  | form fields => fields.id

/-- The type of a group. -/
def type : Group → NodeType
  | container _ => .container
  | card _ => .card
  | form _ => .form

end Group

namespace Leaf

/-- The id of a leaf. -/
def id : Leaf → String
  | text fields => fields.id
  | input fields => fields.id
  | button fields => fields.id
  | image fields => fields.id

/-- The type of a leaf. -/
def type : Leaf → NodeType
  | text _ => .text
  | input _ => .input
  | button _ => .button
  | image _ => .image

end Leaf

namespace Node

/-- The id of a node. -/
def id : Node → String
  | leaf l => l.id
  | group g _ => g.id

/-- The type of a node. -/
def type : Node → NodeType
  | leaf l => l.type
  | group g _ => g.type

/-- Children in the order in which they are drawn. -/
def children : Node → List Node
  | leaf _ => []
  | group _ children => children

mutual

/-- The node and all below it in pre-order. -/
def descendants : Node → List Node
  | leaf l => [leaf l]
  | group g children => group g children :: descendantsOf children

/-- Several nodes and all below them in pre-order. -/
def descendantsOf : List Node → List Node
  | [] => []
  | node :: rest => descendants node ++ descendantsOf rest

end

mutual

/-- Whether two trees are the same. -/
def same : Node → Node → Bool
  | leaf a, leaf b => a = b
  | group a xs, group b ys => a = b && sameAll xs ys
  | _, _ => false

/-- Whether two lists of trees are the same. -/
def sameAll : List Node → List Node → Bool
  | [], [] => true
  | x :: xs, y :: ys => same x y && sameAll xs ys
  | _, _ => false

end

mutual

theorem eq_of_same : {a b : Node} → same a b = true → a = b
  | leaf a, leaf b, h => by
    simp only [same, decide_eq_true_eq] at h
    rw [h]
  | group a xs, group b ys, h => by
    simp only [same, Bool.and_eq_true, decide_eq_true_eq] at h
    rw [h.1, eq_of_sameAll h.2]
  | leaf _, group _ _, h => by simp [same] at h
  | group _ _, leaf _, h => by simp [same] at h

theorem eq_of_sameAll : {xs ys : List Node} → sameAll xs ys = true → xs = ys
  | [], [], _ => rfl
  | x :: xs, y :: ys, h => by
    simp only [sameAll, Bool.and_eq_true] at h
    rw [eq_of_same h.1, eq_of_sameAll h.2]
  | [], _ :: _, h => by simp [sameAll] at h
  | _ :: _, [], h => by simp [sameAll] at h

end

mutual

theorem same_self : (a : Node) → same a a = true
  | leaf a => by simp [same]
  | group a xs => by simp [same, sameAll_self xs]

theorem sameAll_self : (xs : List Node) → sameAll xs xs = true
  | [] => rfl
  | x :: xs => by simp [sameAll, same_self x, sameAll_self xs]

end

/-- Trees are compared by `same`. -/
instance : DecidableEq Node := fun a b =>
  if h : same a b = true then isTrue (eq_of_same h)
  else isFalse fun e => h (e ▸ same_self a)

end Node

end Wireframe
