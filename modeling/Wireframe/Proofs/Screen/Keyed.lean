import Wireframe.Proofs.Chars.Digits
import Wireframe.Proofs.Results
import Wireframe.Screen.Key

/-!
# Nodes by their keys

No two nodes of a document have the same key (`Document.nodup_keyedNodes`), although they may have
the same id : the key of a node below a child goes on with the index of the child, and what follows
the index is no digit (`Key.Below`). So a key finds the one node that it belongs to
(`Document.nodeAt?`). A walk through a document is a fold over its nodes with their keys
(`Node.walk_eq_foldl`).
-/

namespace Wireframe

namespace Key

/-- Keys of a node and of those below it. -/
def Below (key other : Key) : Prop :=
  ∃ rest, other.text.toList = key.text.toList ++ rest ∧ Chars.NoDigitFirst rest

theorem below_self (key : Key) : key.Below key :=
  ⟨[], by simp, by simp [Chars.NoDigitFirst]⟩

theorem toList_text_child (key : Key) (index : Nat) :
    (key.child index).text.toList =
      key.text.toList ++ ".children.".toList ++ Layout.digitChars index := by
  simp only [child, String.toList_append, String.toList_ofList]

/-- What is below a child is below the node. -/
theorem Below.of_child {key other : Key} {index : Nat} (below : (key.child index).Below other) :
    key.Below other := by
  obtain ⟨rest, text_eq, -⟩ := below
  refine ⟨".children.".toList ++ Layout.digitChars index ++ rest, ?_, ?_⟩
  · rw [text_eq, toList_text_child]
    simp only [List.append_assoc]
  · rintro c ⟨⟩
    rfl

/-- No node is below one of its children. -/
theorem not_below_child (key : Key) (index : Nat) : ¬ (key.child index).Below key := by
  rintro ⟨rest, text_eq, -⟩
  have length_eq := congrArg List.length text_eq
  rw [toList_text_child] at length_eq
  simp at length_eq

/-- A key is below one child at most. -/
theorem Below.index_eq {key other : Key} {i j : Nat} (first : (key.child i).Below other)
    (second : (key.child j).Below other) : i = j := by
  obtain ⟨rest, text_eq, stop⟩ := first
  obtain ⟨rest', text_eq', stop'⟩ := second
  rw [toList_text_child, List.append_assoc] at text_eq text_eq'
  have behind : Layout.digitChars i ++ rest = Layout.digitChars j ++ rest' :=
    List.append_cancel_left (text_eq.symm.trans text_eq')
  have digits_eq : Layout.digitChars i = Layout.digitChars j := by
    rw [← Chars.takeWhile_digits (fun _ => Chars.isDigit_of_mem_digitChars) stop, behind,
      Chars.takeWhile_digits (fun _ => Chars.isDigit_of_mem_digitChars) stop']
  rw [← Chars.ofDigitChars_digitChars i, digits_eq, Chars.ofDigitChars_digitChars]

end Key

namespace Node

mutual

/-- A node and those below it have keys that are below its own. -/
theorem below_of_mem_keyed {key : Key} : ∀ {node : Node} {entry : Key × Node},
    entry ∈ keyed key node → key.Below entry.1
  | .leaf l, entry, mem => by
    obtain rfl := List.mem_singleton.1 mem
    exact key.below_self
  | .group g children, entry, mem => by
    obtain rfl | mem := List.mem_cons.1 mem
    · exact key.below_self
    · obtain ⟨_, -, below⟩ := below_of_mem_keyedChildren mem
      exact below.of_child

/-- Nodes below others are each below one of them. -/
theorem below_of_mem_keyedChildren {parent : Key} : ∀ {children : List Node} {index : Nat}
    {entry : Key × Node}, entry ∈ keyedChildren parent index children →
      ∃ i ≥ index, (parent.child i).Below entry.1
  | [], _, _, mem => by cases mem
  | node :: rest, index, entry, mem => by
    obtain here | later := List.mem_append.1 mem
    · exact ⟨index, Nat.le_refl index, below_of_mem_keyed here⟩
    · obtain ⟨i, after, below⟩ := below_of_mem_keyedChildren later
      exact ⟨i, Nat.le_of_succ_le after, below⟩

end

mutual

theorem nodup_keyed (key : Key) : ∀ node : Node, ((keyed key node).map Prod.fst).Nodup
  | .leaf l => by simp [keyed]
  | .group g children => by
    rw [keyed, List.map_cons, List.nodup_cons]
    refine ⟨fun mem => ?_, nodup_keyedChildren key children 0⟩
    obtain ⟨entry, entry_mem, same⟩ := List.mem_map.1 mem
    obtain ⟨i, -, below⟩ := below_of_mem_keyedChildren entry_mem
    rw [same] at below
    exact key.not_below_child i below

theorem nodup_keyedChildren (parent : Key) : ∀ (children : List Node) (index : Nat),
    ((keyedChildren parent index children).map Prod.fst).Nodup
  | [], _ => by simp [keyedChildren]
  | node :: rest, index => by
    rw [keyedChildren, List.map_append, List.nodup_append]
    refine ⟨nodup_keyed _ node, nodup_keyedChildren parent rest (index + 1), ?_⟩
    rintro key here _ later rfl
    obtain ⟨entry, entry_mem, rfl⟩ := List.mem_map.1 here
    obtain ⟨entry', entry_mem', same⟩ := List.mem_map.1 later
    obtain ⟨i, after, below⟩ := below_of_mem_keyedChildren entry_mem'
    -- the one is below this child, the other below a later one
    have index_eq := (below_of_mem_keyed entry_mem).index_eq (same ▸ below)
    omega

end

section Walk

variable {σ : Type} {visit : σ → Key → Node → σ}

mutual

/-- A walk visits the nodes with their keys one after the other. -/
theorem walk_eq_foldl {key : Key} : ∀ {node : Node} {state : σ},
    walk visit state key node =
      (keyed key node).foldl (fun state entry => visit state entry.1 entry.2) state
  | .leaf _, _ => rfl
  | .group _ _, _ => walkChildren_eq_foldl

theorem walkChildren_eq_foldl {parent : Key} : ∀ {children : List Node} {index : Nat} {state : σ},
    walkChildren visit state parent index children =
      (keyedChildren parent index children).foldl
        (fun state entry => visit state entry.1 entry.2) state
  | [], _, _ => rfl
  | _ :: _, _, _ => by
    rw [walkChildren, keyedChildren, List.foldl_append, walk_eq_foldl, walkChildren_eq_foldl]

end

end Walk

end Node

namespace Document

/-- No two nodes have the same key. -/
theorem nodup_keyedNodes (d : Document) : (d.keyedNodes.map Prod.fst).Nodup :=
  Node.nodup_keyed .root d.root

/-- The node with that key. -/
def nodeAt? (d : Document) (key : Key) : Option Node :=
  List.lookup key d.keyedNodes

theorem nodeAt?_eq_some_iff {d : Document} {key : Key} {node : Node} :
    d.nodeAt? key = some node ↔ (key, node) ∈ d.keyedNodes :=
  lookup_eq_some_iff_mem key node d.nodup_keyedNodes

end Document

end Wireframe
