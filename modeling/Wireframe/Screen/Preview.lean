import Wireframe.Document.Validation
import Wireframe.Screen.Element

/-!
# Previews of unchecked values

`Element.ofJson` draws a value that nobody validated. Each node is checked on its own, without
its children, so a fault becomes a placeholder at its place while everything around it is drawn
as usual. The value may be a document or a bare node.

A node without an id gets its key for one. An id of null counts as given, and the id source is
asked for another.
-/

namespace Wireframe

namespace Element

/-- A node at a key from its members and, if its children are a list, the drawn children. -/
def ofMembers (ids : Key → String) (key : Key) (members : Members)
    (drawn : Option (List Element)) : Element :=
  let typeName := ((members.get? "type").bind Json.asString?).getD ""
  match (Choices.ofWord? typeName : Option NodeType) with
  | none => placeholder key (.unsupported typeName)
  | some _ =>
    let alone := members.without "children"
    let named := if (alone.get? "id").isSome then alone else alone.put "id" (.string key.text)
    match Node.validate ⟨fun _ => ids key, defaultMaxDepth⟩ (.object named) with
    | .error issues => placeholder key (.invalid typeName (Issue.summary issues))
    | .ok (.leaf l) => leaf key (drawLeaf none key l)
    | .ok (.group g _) =>
      match drawn with
      | some children => group key g children
      | none => placeholder key (.invalid typeName "children: Expected array")

mutual

/-- A raw node at a key and depth. -/
def ofRaw (ids : Key → String) (key : Key) (depth : Nat) : Json → Element
  | .object members =>
    if defaultMaxDepth < depth then
      placeholder key (.invalid "" (Fault.tooDeep defaultMaxDepth).message)
    else ofMembers ids key members (ofChildren ids key depth members)
  | _ =>
    if defaultMaxDepth < depth then
      placeholder key (.invalid "" (Fault.tooDeep defaultMaxDepth).message)
    else placeholder key (.invalid "" "node is not an object")

/-- The children among the members of the node at a key and depth, none if they are no list. -/
def ofChildren (ids : Key → String) (key : Key) (depth : Nat) :
    Members → Option (List Element)
  | [] => some []
  | (name, value) :: rest =>
    if name = "children" then ofList ids key depth value else ofChildren ids key depth rest

/-- The children of the node at a key and depth. -/
def ofList (ids : Key → String) (key : Key) (depth : Nat) : Json → Option (List Element)
  | .null => some []
  | .array items => some (ofItems ids key (depth + 1) 0 items)
  | _ => none

/-- Children at a depth from an index on. -/
def ofItems (ids : Key → String) (parent : Key) (depth index : Nat) :
    List Json → List Element
  | [] => []
  | item :: rest =>
    ofRaw ids (parent.child index) depth item :: ofItems ids parent depth (index + 1) rest

end

/-- A raw document or node. -/
def ofJson (ids : Key → String) (raw : Json) : Element :=
  ofRaw ids .root 0 ((raw.get? "root").getD raw)

end Element

end Wireframe
