import Wireframe.Document.Basic
import Wireframe.Json.Printer

/-!
# The written form of documents

A document as JSON. Fields stand in a fixed order, the type of a node first; optional fields
that are not set are left out.
-/

namespace Wireframe

/-- A member for a field that may be unset. -/
def optionalMember (name : String) (encode : α → Json) : Option α → Members
  | some value => [(name, encode value)]
  | none => []

/-- A number with double precision. -/
def Json.ofDouble (x : Double) : Json :=
  .number (.double x)

/-- The word of a choice. -/
def Json.ofChoice [Choices α] (value : α) : Json :=
  .string (Choices.word value)

namespace Palette

/-- The colours that are set. -/
def toJson (p : Palette) : Json :=
  .object <|
    optionalMember "primary" .string p.primary ++
    optionalMember "secondary" .string p.secondary ++
    optionalMember "background" .string p.background ++
    optionalMember "foreground" .string p.foreground

end Palette

namespace Group

/-- The members of a group, its children among them. -/
def members (children : Json) : Group → Members
  | container c =>
    [("id", .string c.id), ("direction", .ofChoice c.direction), ("gap", .ofDouble c.gap),
      ("padding", .ofDouble c.padding), ("children", children)]
  | card c => [("id", .string c.id), ("children", children), ("padding", .ofDouble c.padding)]
  | form f => [("id", .string f.id), ("children", children)]

end Group

namespace Leaf

/-- The members of a leaf. -/
def members : Leaf → Members
  | text t =>
    [("id", .string t.id), ("content", .string t.content), ("variant", .ofChoice t.variant)]
  | input i =>
    [("id", .string i.id), ("name", .string i.name)] ++
      optionalMember "label" .string i.label ++
      optionalMember "placeholder" .string i.placeholder ++
      [("kind", .ofChoice i.kind), ("showToggle", .bool i.showToggle)]
  | button b =>
    [("id", .string b.id), ("text", .string b.text), ("variant", .ofChoice b.variant),
      ("debounceMs", .ofNat b.debounceMs.toNat)]
  | image i =>
    [("id", .string i.id), ("src", .string i.src), ("alt", .string i.alt)] ++
      optionalMember "width" .ofDouble i.width ++
      optionalMember "height" .ofDouble i.height ++
      [("radius", .ofDouble i.radius)]

end Leaf

namespace Node

mutual

/-- A node as JSON. -/
def toJson : Node → Json
  | leaf l => .object (("type", .ofChoice l.type) :: l.members)
  | group g children =>
    .object (("type", .ofChoice g.type) :: g.members (.array (toJsonAll children)))

/-- Nodes as JSON. -/
def toJsonAll : List Node → List Json
  | [] => []
  | node :: rest => toJson node :: toJsonAll rest

end

end Node

namespace Document

/-- A document as JSON. -/
def toJson (d : Document) : Json :=
  .object <|
    [("version", .string d.version)] ++
    optionalMember "palette" Palette.toJson d.palette ++
    [("root", d.root.toJson)]

/-- A document as text with one member on a line. -/
def pretty (d : Document) : String :=
  d.toJson.pretty

end Document

end Wireframe
