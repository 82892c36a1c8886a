import Wireframe.Document.Encoding

/-!
# Reading documents back

`Document.decode?` reads the written form of a document as it is, without the validator's
defaults: every field except the optional ones has to be there with its type, an optional one
may also be null, and unknown members are ignored. Any version is accepted.

Three terse spellings are read as well. A record may be an array of all its fields in their
order, a node's type coming first. A word may be an object whose only member has that name and
is empty. Below the root, the type of a node may be its position in the list of types.
-/

namespace Wireframe

/-- A choice by its word, or as the only name of an object, with null behind it. -/
def Json.choice? {α : Type} [Choices α] : Json → Option α
  | .string word => Choices.ofWord? word
  | .object [(word, .null)] => Choices.ofWord? word
  | _ => none

namespace Members

/-- A string that has to be there. -/
def string? (members : Members) (name : String) : Option String :=
  match members.get? name with
  | some (.string value) => some value
  | _ => none

/-- A number that has to be there. -/
def double? (members : Members) (name : String) : Option Double :=
  match members.get? name with
  | some (.number value) => some value.toDouble
  | _ => none

/-- A word of 64 bits that has to be there. -/
def word? (members : Members) (name : String) : Option UInt64 :=
  match members.get? name with
  | some (.number value) => value.toWord?
  | _ => none

/-- A truth value that has to be there. -/
def bool? (members : Members) (name : String) : Option Bool :=
  match members.get? name with
  | some (.bool value) => some value
  | _ => none

/-- A choice that has to be there. -/
def choice? {α : Type} [Choices α] (members : Members) (name : String) : Option α :=
  match members.get? name with
  | some (.object [(word, .object [])]) => Choices.ofWord? word
  | some value => value.choice?
  | none => none

/-- A string that may be absent or null: refused, unset or set. -/
def optionalString? (members : Members) (name : String) : Option (Option String) :=
  match members.present? name with
  | none => some none
  | some (.string value) => some (some value)
  | some _ => none

/-- A number that may be absent or null: refused, unset or set. -/
def optionalDouble? (members : Members) (name : String) : Option (Option Double) :=
  match members.present? name with
  | none => some none
  | some (.number value) => some (some value.toDouble)
  | some _ => none

end Members

/-- The members of a record with the given fields, from an object or from an array of all its
fields. -/
def Json.record? (fields : List String) : Json → Option Members
  | .object members => some members
  | .array items => if items.length = fields.length then some (fields.zip items) else none
  | _ => none

namespace Palette

/-- The fields of a palette in their order. -/
def fieldNames : List String := ["primary", "secondary", "background", "foreground"]

/-- A palette from its written form. -/
def decode? (raw : Json) : Option Palette := do
  let members ← raw.record? fieldNames
  let primary ← members.optionalString? "primary"
  let secondary ← members.optionalString? "secondary"
  let background ← members.optionalString? "background"
  let foreground ← members.optionalString? "foreground"
  some ⟨primary, secondary, background, foreground⟩

end Palette

namespace Leaf

/-- A leaf of a type from its members, none for the types of groups. -/
def decode? (members : Members) : NodeType → Option Leaf
  | .text => do
    let id ← members.string? "id"
    let content ← members.string? "content"
    let variant ← members.choice? "variant"
    some (.text ⟨id, content, variant⟩)
  | .input => do
    let id ← members.string? "id"
    let name ← members.string? "name"
    let label ← members.optionalString? "label"
    let placeholder ← members.optionalString? "placeholder"
    let kind ← members.choice? "kind"
    let showToggle ← members.bool? "showToggle"
    some (.input ⟨id, name, label, placeholder, kind, showToggle⟩)
  | .button => do
    let id ← members.string? "id"
    let text ← members.string? "text"
    let variant ← members.choice? "variant"
    let debounceMs ← members.word? "debounceMs"
    some (.button ⟨id, text, variant, debounceMs⟩)
  | .image => do
    let id ← members.string? "id"
    let src ← members.string? "src"
    let alt ← members.string? "alt"
    let width ← members.optionalDouble? "width"
    let height ← members.optionalDouble? "height"
    let radius ← members.double? "radius"
    some (.image ⟨id, src, alt, width, height, radius⟩)
  | .container | .card | .form => none

end Leaf

namespace Group

/-- A group of a type from its members, none for the types of leaves. -/
def decode? (members : Members) : NodeType → Option Group
  | .container => do
    let id ← members.string? "id"
    let direction ← members.choice? "direction"
    let gap ← members.double? "gap"
    let padding ← members.double? "padding"
    some (.container ⟨id, direction, gap, padding⟩)
  | .card => do
    let id ← members.string? "id"
    let padding ← members.double? "padding"
    some (.card ⟨id, padding⟩)
  | .form => do
    let id ← members.string? "id"
    some (.form ⟨id⟩)
  | .text | .input | .button | .image => none

end Group

/-- The fields of a type in their order, after the type itself. -/
def NodeType.fieldNames : NodeType → List String
  | .container => ["id", "direction", "gap", "padding", "children"]
  | .card => ["id", "children", "padding"]
  | .form => ["id", "children"]
  | .text => ["id", "content", "variant"]
  | .input => ["id", "name", "label", "placeholder", "kind", "showToggle"]
  | .button => ["id", "text", "variant", "debounceMs"]
  | .image => ["id", "src", "alt", "width", "height", "radius"]

namespace Node

/-- The type of a node, by its word or below the root by its position. -/
def decodeType? (nested : Bool) : Json → Option NodeType
  | .string word => Choices.ofWord? word
  | .number (.integer value) =>
    if nested ∧ 0 ≤ value then (Choices.all : List NodeType)[value.toNat]? else none
  | _ => none

/-- A node of a type from its members and its decoded children. -/
def decodeMembers? (type : NodeType) (members : Members) (children : Option (List Node)) :
    Option Node :=
  if type.isGroup then do
    let group ← Group.decode? members type
    let children ← children
    some (.group group children)
  else (Leaf.decode? members type).map .leaf

mutual

/-- A node from its written form, at the root or nested in another. -/
def decode? (nested : Bool) : Json → Option Node
  | .object members => do
    let type ← decodeType? nested (← Members.get? members "type")
    decodeMembers? type members (decodeChildren? members)
  | .array (tag :: items) => do
    let type ← decodeType? nested tag
    let members ← (Json.array items).record? type.fieldNames
    decodeMembers? type members (decodePlaced? type.fieldNames items)
  | _ => none

/-- The children among the members of a node. -/
def decodeChildren? : Members → Option (List Node)
  | [] => none
  | (name, value) :: rest =>
    if name = "children" then decodeList? value else decodeChildren? rest

/-- The children among the fields of a node that have their names by order. -/
def decodePlaced? : List String → List Json → Option (List Node)
  | name :: names, item :: rest =>
    if name = "children" then decodeList? item else decodePlaced? names rest
  | _, _ => none

/-- Children from an array. -/
def decodeList? : Json → Option (List Node)
  | .array items => decodeItems? items
  | _ => none

/-- Nodes one by one. -/
def decodeItems? : List Json → Option (List Node)
  | [] => some []
  | item :: rest => do
    let node ← decode? true item
    let later ← decodeItems? rest
    some (node :: later)

end

end Node

namespace Document

/-- The fields of a document in their order. -/
def fieldNames : List String := ["version", "palette", "root"]

/-- The palette of a written document, which may be absent or null. -/
def decodePalette? (members : Members) : Option (Option Palette) :=
  match members.present? "palette" with
  | none => some none
  | some raw => (Palette.decode? raw).map some

/-- A document from its written form. -/
def decode? (raw : Json) : Option Document := do
  let members ← raw.record? fieldNames
  let version ← members.string? "version"
  let palette ← decodePalette? members
  let root ← (members.get? "root").bind (Node.decode? false)
  some ⟨version, palette, root⟩

end Document

end Wireframe
