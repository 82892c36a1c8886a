import Wireframe.Proofs.Screen.Isolation
import Wireframe.Proofs.Screen.Walks

/-!
# Documents written without ids

A node that is written without an id gets the text of its path for one, and the text of its path is
its key (`Path.IsAt`). So if no node is written with an id, the ids tell all nodes apart and are
the keys under which the nodes are drawn, have their widgets and are found
(`Document.ids_are_keys`).
-/

namespace Wireframe

/-! ## Raw nodes without ids -/

/-- Whether no raw node of a tree is written with an id. -/
def Json.NoWrittenIds (root : Json) : Prop :=
  ∀ members, root.RawNode (.object members) → ∀ id, Members.get? members "id" ≠ some (.string id)

/-- What holds of the nodes of a tree holds below each child. -/
theorem Json.NoWrittenIds.child {members : Members} {items : List Json} {item : Json}
    (unnamed : (Json.object members).NoWrittenIds) (group : members.NameGroup)
    (children : ChildItems members items) (mem : item ∈ items) : item.NoWrittenIds :=
  fun _ node => unnamed _ (node.of_child group children mem)

namespace Node

/-- Members without a written id show a node whose id is the key of its path. -/
theorem Shows.id_eq_key {path : Path} {key : Key} {members : Members} {node : Node}
    (shown : node.Shows Path.nodeId path members) (isAt : path.IsAt key)
    (unnamed : ∀ id, members.get? "id" ≠ some (.string id)) : node.id = key.text := by
  have id_eq := shown.id
  rw [isAt.nodeId_eq] at id_eq
  simp only [FieldRule.read?, idRule] at id_eq
  cases present : members.present? "id" with
  | none => simpa [present, eq_comm] using id_eq
  | some raw =>
    have given := (Members.present?_eq_some.1 present).1
    cases raw with
    | string id => exact absurd given (unnamed id)
    | _ => simp [present, FieldKind.read?] at id_eq

/-- Nodes below others are each below the child with some index. -/
theorem exists_of_mem_keyedChildren {parent : Key} {entry : Key × Node} {children : List Node}
    (mem : entry ∈ keyedChildren parent 0 children) :
    ∃ (i : Nat) (hi : i < children.length), entry ∈ keyed (parent.child i) children[i] := by
  obtain ⟨i, place, key_eq, node_eq⟩ := mem_keyedChildren_iff.1 mem
  obtain ⟨child, child_eq, node_eq⟩ := Option.bind_eq_some_iff.1 node_eq
  obtain ⟨hi, rfl⟩ := List.getElem?_eq_some_iff.1 child_eq
  rw [Nat.zero_add] at key_eq
  exact ⟨i, hi, mem_keyed_iff.2 ⟨place, key_eq, node_eq⟩⟩

/-- The nodes of a tree without written ids have their keys for ids. -/
theorem NormalForm.id_eq_key {path : Path} {raw : Json} {node : Node}
    (normal : NormalForm Path.nodeId path raw node) :
    ∀ {key : Key}, path.IsAt key → raw.NoWrittenIds →
      ∀ entry ∈ keyed key node, entry.2.id = entry.1.text := by
  induction normal with
  | leaf shown =>
    intro key isAt unnamed entry mem
    obtain rfl := List.mem_singleton.1 mem
    exact shown.id_eq_key isAt (unnamed _ .self)
  | @group path members g items children shown items_eq length_eq each ih =>
    intro key isAt unnamed entry mem
    obtain rfl | below := List.mem_cons.1 mem
    · exact shown.id_eq_key isAt (unnamed _ .self)
    · obtain ⟨i, hi, mem⟩ := exists_of_mem_keyedChildren below
      have group : members.NameGroup := ⟨_, shown.admits.nodeType?_eq, g.isGroup_type⟩
      have item_mem : items.get ⟨i, length_eq ▸ hi⟩ ∈ items := List.get_mem _ _
      exact ih i (length_eq ▸ hi) hi (isAt.child i) (unnamed.child group items_eq item_mem) entry mem

end Node

/-! ## Documents without written ids -/

namespace Document

/-- If no node is written with an id, the nodes with their keys are the nodes with their ids. -/
theorem keyedNodes_of_unnamed {bound : Nat} {raw : Json} {d : Document}
    (valid : validate ⟨Path.nodeId, bound⟩ raw = .ok d)
    (unnamed : ∀ root, raw.get? "root" = some root → root.NoWrittenIds) :
    d.keyedNodes = d.nodes.map fun node => (⟨node.id⟩, node) := by
  have ids_eq : ∀ entry ∈ d.keyedNodes, entry.2.id = entry.1.text := by
    obtain ⟨-, normal⟩ := of_validate valid
    cases normal with
    | intro _ root_eq root_normal =>
      exact root_normal.id_eq_key Path.isAt_root
        (unnamed _ (Members.present?_eq_some.1 root_eq).1)
  have nodes_eq : d.nodes = d.keyedNodes.map Prod.snd := (Node.map_snd_keyed .root d.root).symm
  have same : ∀ entry ∈ d.keyedNodes, (⟨entry.2.id⟩, entry.2) = entry :=
    fun entry mem => Prod.ext (congrArg Key.mk (ids_eq entry mem)) rfl
  rw [nodes_eq, List.map_map]
  exact ((List.map_congr_left same).trans (List.map_id' _)).symm

/-- If no node of a valid document is written with an id and ids are made from paths, the ids of
all nodes are different, and each is the key under which the node is drawn, has its widget, and is
found together with the node itself. -/
theorem ids_are_keys {bound : Nat} {raw : Json} {d : Document}
    (valid : validate ⟨Path.nodeId, bound⟩ raw = .ok d)
    (unnamed : ∀ root, raw.get? "root" = some root → root.NoWrittenIds) (mount : Option Mount) :
    (d.nodes.map Node.id).Nodup ∧
      d.keyedNodes = d.nodes.map (fun node => (⟨node.id⟩, node)) ∧
      (Mount.ofDocument d).widgets =
        d.nodes.filterMap (fun node => (Widget.ofNode? node).map fun w => (⟨node.id⟩, w)) ∧
      (Element.ofDocument d mount).descendants.map Element.origin =
        d.nodes.map (fun node => (⟨node.id⟩, some node.type, some node.id)) ∧
      ∀ node ∈ d.nodes, d.find? node.id = some node ∧ d.keyOf? node.id = some ⟨node.id⟩ := by
  have keyed_eq := keyedNodes_of_unnamed valid unnamed
  have distinct : (d.nodes.map Node.id).Nodup := by
    have keys_nodup := d.nodup_keyedNodes
    rw [keyed_eq, List.map_map] at keys_nodup
    refine List.Nodup.of_map Key.mk ?_
    rwa [List.map_map]
  refine ⟨distinct, keyed_eq, ?_, ?_, fun node mem => ?_⟩
  · rw [Mount.ofDocument_eq, keyed_eq, List.filterMap_map]
    rfl
  · have drawn : (Element.ofDocument d mount).descendants.map Element.origin =
        d.keyedNodes.map fun entry => (entry.1, some entry.2.type, some entry.2.id) :=
      Element.map_origin_ofNode
    rw [drawn, keyed_eq, List.map_map]
    rfl
  · have found : d.find? node.id = some node := find?_of_nodup_map distinct mem
    refine ⟨found, ?_⟩
    have first : d.keyOf? node.id =
        (d.keyedNodes.find? fun entry => entry.2.id = node.id).map Prod.fst := Node.keyOf?_eq
    rw [first, keyed_eq, List.find?_map, Option.map_map]
    exact congrArg (Option.map _) found

/-- In a form with eleven texts the last one has two digits in its id, and is found by it. -/
theorem last_of_eleven_texts :
    let raw_text : Json := .object [("type", .string "text"), ("content", .string "Hello")]
    let root : Json := .object [
      ("type", .string "form"), ("children", .array (List.replicate 11 raw_text))]
    let raw : Json := .object [("version", .string "0.1"), ("root", root)]
    let text (i : Nat) : Node := .leaf (.text ⟨(Key.root.child i).text, "Hello", .p⟩)
    let d := ofRoot (.group (.form ⟨"root"⟩) ((List.range 11).map text))
    validate .structural raw = .ok d ∧ root.NoWrittenIds ∧ (d.nodes.map Node.id).Nodup ∧
      d.find? "root.children.10" = some (text 10) ∧
      d.keyOf? "root.children.10" = some ⟨"root.children.10"⟩ := by
  intro raw_text root raw text d
  have valid : validate .structural raw = .ok d := by decide +kernel
  have unnamed : root.NoWrittenIds := by
    refine Json.forall_rawNode (fun _ => nofun) fun items listed item mem => ?_
    obtain rfl := listed.unique (.array rfl)
    obtain rfl := List.eq_of_mem_replicate mem
    refine Json.forall_rawNode (fun _ => nofun) fun items listed item mem => ?_
    obtain rfl := listed.unique (.unset rfl)
    cases mem
  have unnamed_root : ∀ top, raw.get? "root" = some top → top.NoWrittenIds := by
    rintro _ ⟨⟩
    exact unnamed
  obtain ⟨distinct, -, -, -, each⟩ := ids_are_keys valid unnamed_root none
  have last : d.nodes[11]? = some (text 10) := by decide +kernel
  exact ⟨valid, unnamed, distinct, each _ (List.mem_of_getElem? last)⟩

end Document

end Wireframe
