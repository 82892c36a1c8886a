import Wireframe.Document.Issue
import Wireframe.Json.Reader

/-!
# Validation

A raw value becomes a document in one pass that fills in every default and reports every
issue. A field counts as absent when it is null, and members that the language does not know
are ignored. Nodes without an id get one from an id source, a function of their path;
`Path.nodeId` is the source of ids that stay the same from pass to pass.

The walk follows the raw tree itself. `children` looks for the member of that name and descends
into its items, so that the members of one node are passed over once.
-/

namespace Wireframe

/-- How a raw value is validated. -/
structure ValidationOptions where
  /-- The id of a node that has none. -/
  ids : Path → String
  /-- Levels of nodes below the top node. -/
  maxDepth : Nat

/-- Levels that documents have unless another bound is given. -/
def defaultMaxDepth : Nat := 64

namespace ValidationOptions

/-- Ids made from paths, and the default bound. -/
def structural : ValidationOptions :=
  ⟨Path.nodeId, defaultMaxDepth⟩

end ValidationOptions

/-- An object whose fields are checked, and where it stands. -/
structure Fields where
  members : Members
  path : Path

namespace Fields

/-- The value of a field, none if it is absent or null. -/
def get? (f : Fields) (name : String) : Option Json :=
  f.members.present? name

/-- The path of a field. -/
def place (f : Fields) (name : String) : Path :=
  f.path.key name

/-- A field of the wrong type. -/
def wrongType {α : Type} (f : Fields) (name : String) (expected : JsonType) (received : Json)
    (standIn : α) : Checked α :=
  .report (f.place name) (.wrongType expected received.type) standIn

/-- A string that may be absent. -/
def string? (f : Fields) (name : String) : Checked (Option String) :=
  match f.get? name with
  | none => pure none
  | some (.string value) => pure (some value)
  | some other => f.wrongType name .string other none

/-- A string that has to be there. -/
def string (f : Fields) (name : String) : Checked String :=
  match f.get? name with
  | none => .report (f.place name) .missing ""
  | some (.string value) => pure value
  | some other => f.wrongType name .string other ""

/-- A string with a default. -/
def stringOr (f : Fields) (name default : String) : Checked String := do
  return (← f.string? name).getD default

/-- A truth value with a default. -/
def boolOr (f : Fields) (name : String) (default : Bool) : Checked Bool :=
  match f.get? name with
  | none => pure default
  | some (.bool value) => pure value
  | some other => f.wrongType name .boolean other default

/-- A number that may be absent. -/
def number? (f : Fields) (name : String) : Checked (Option Double) :=
  match f.get? name with
  | none => pure none
  | some (.number value) => pure (some value.toDouble)
  | some other => f.wrongType name .number other none

/-- A number with a default. -/
def numberOr (f : Fields) (name : String) (default : Double) : Checked Double := do
  return (← f.number? name).getD default

/-- A word with a default. -/
def choiceOr {α : Type} [Choices α] (f : Fields) (name : String) (default : α) : Checked α :=
  match f.get? name with
  | none => pure default
  | some (.string word) =>
    match Choices.ofWord? word with
    | some value => pure value
    | none =>
      .report (f.place name) (.notAChoice (Choices.words α) word) default
  | some other => f.wrongType name .string other default

/-- A delay in milliseconds: no delay below zero, rounded, at most a word. -/
def delayOr (f : Fields) (name : String) (default : UInt64) : Checked UInt64 := do
  match ← f.number? name with
  | some value => return value.toUInt64
  | none => return default

end Fields

namespace Palette

/-- The colours of a raw palette. -/
def check (f : Fields) : Checked Palette := do
  let primary ← f.string? "primary"
  let secondary ← f.string? "secondary"
  let background ← f.string? "background"
  let foreground ← f.string? "foreground"
  return ⟨primary, secondary, background, foreground⟩

/-- The palette of a raw document. -/
def checkField (f : Fields) : Checked (Option Palette) :=
  match f.get? "palette" with
  | none => pure none
  | some (.object members) => do return some (← check ⟨members, f.place "palette"⟩)
  | some other => f.wrongType "palette" .object other none

end Palette

namespace Node

/-- A node of known type, its children being checked where the type puts them. -/
def checkType (f : Fields) (id : String) (children : Checked (List Node)) :
    NodeType → Checked Node
  | .container => do
    let direction ← f.choiceOr "direction" .vertical
    let gap ← f.numberOr "gap" defaults.gap
    let padding ← f.numberOr "padding" defaults.padding
    let children ← children
    return .group (.container ⟨id, direction, gap, padding⟩) children
  | .card => do
    let children ← children
    let padding ← f.numberOr "padding" defaults.padding
    return .group (.card ⟨id, padding⟩) children
  | .form => do
    let children ← children
    return .group (.form ⟨id⟩) children
  | .text => do
    let content ← f.string "content"
    let variant ← f.choiceOr "variant" .p
    return .leaf (.text ⟨id, content, variant⟩)
  | .input => do
    let name ← f.stringOr "name" defaults.inputName
    let label ← f.string? "label"
    let placeholder ← f.string? "placeholder"
    let kind ← f.choiceOr "kind" .text
    let showToggle ← f.boolOr "showToggle" true
    return .leaf (.input ⟨id, name, label, placeholder, kind, showToggle⟩)
  | .button => do
    let text ← f.string "text"
    let variant ← f.choiceOr "variant" .primary
    let debounceMs ← f.delayOr "debounceMs" defaults.debounceMs
    return .leaf (.button ⟨id, text, variant, debounceMs⟩)
  | .image => do
    let src ← f.string "src"
    let alt ← f.stringOr "alt" ""
    let width ← f.number? "width"
    let height ← f.number? "height"
    let radius ← f.numberOr "radius" defaults.imageRadius
    return .leaf (.image ⟨id, src, alt, width, height, radius⟩)

/-- A node from its members. The type is looked at first, then the id, then the other fields. -/
def checkMembers (options : ValidationOptions) (f : Fields) (children : Checked (List Node)) :
    Checked (Option Node) :=
  match f.get? "type" with
  | none => .report (f.place "type") .missing none
  | some (.string word) => do
    let id ← f.stringOr "id" (options.ids f.path)
    match Choices.ofWord? word with
    | some type => do return some (← checkType f id children type)
    | none => .report (f.place "type") (.unknownType word) none
  | some other => f.wrongType "type" .string other none

mutual

/-- A node at a path and depth, none if it cannot be made out at all. -/
def check (options : ValidationOptions) (path : Path) (depth : Nat) :
    Json → Checked (Option Node)
  | .object members =>
    if options.maxDepth < depth then .report path (.tooDeep options.maxDepth) none
    else checkMembers options ⟨members, path⟩ (checkChildren options path depth members)
  | other =>
    if options.maxDepth < depth then .report path (.tooDeep options.maxDepth) none
    else .report path (.wrongType .object other.type) none

/-- The children among the members of a node at a path and depth. -/
def checkChildren (options : ValidationOptions) (path : Path) (depth : Nat) :
    Members → Checked (List Node)
  | [] => pure []
  | (name, value) :: rest =>
    if name = "children" then checkList options (path.key "children") depth value
    else checkChildren options path depth rest

/-- The children at a path of a node at a depth. -/
def checkList (options : ValidationOptions) (path : Path) (depth : Nat) :
    Json → Checked (List Node)
  | .null => pure []
  | .array items => checkItems options path (depth + 1) 0 items
  | other => .report path (.wrongType .array other.type) []

/-- Children from an index on, those left out that cannot be made out. -/
def checkItems (options : ValidationOptions) (path : Path) (depth index : Nat) :
    List Json → Checked (List Node)
  | [] => pure []
  | item :: rest => do
    let node ← check options (path.index index) depth item
    let later ← checkItems options path depth (index + 1) rest
    return node.toList ++ later

end

/-- A node that stands outside of a document. -/
def validate (options : ValidationOptions) (raw : Json) : Except (List Issue) Node :=
  (check options .top 0 raw).result

end Node

namespace Document

/-- The version of a raw document. -/
def checkVersion (f : Fields) : Checked Unit :=
  match f.get? "version" with
  | none => .report (f.place "version") .missing ()
  | some (.string version) =>
    if version = languageVersion then pure ()
    else .report (f.place "version") .versionMismatch ()
  | some _ => .report (f.place "version") .versionMismatch ()

/-- The root of a raw document. -/
def checkRoot (options : ValidationOptions) (f : Fields) : Checked (Option Node) :=
  match f.get? "root" with
  | none => .report (f.place "root") .missing none
  | some raw => Node.check options (f.place "root") 0 raw

/-- A raw document: version, palette, root. -/
def check (options : ValidationOptions) : Json → Checked (Option Document)
  | .object members => do
    let f : Fields := ⟨members, .top⟩
    checkVersion f
    let palette ← Palette.checkField f
    let root ← checkRoot options f
    return root.map fun root => ⟨languageVersion, palette, root⟩
  | other => .report .top (.wrongType .object other.type) none

/-- The document that a raw value stands for, or everything that is wrong with it. -/
def validate (options : ValidationOptions) (raw : Json) : Except (List Issue) Document :=
  (check options raw).result

/-- Why a text is no document. -/
inductive ParseError where
  | notJson
  | invalid (issues : List Issue)

/-- The document in a text. -/
def parse (options : ValidationOptions) (text : String) : Except ParseError Document :=
  match Json.parse? text with
  | none => .error .notJson
  | some raw =>
    match validate options raw with
    | .ok document => .ok document
    | .error issues => .error (.invalid issues)

end Document

end Wireframe
