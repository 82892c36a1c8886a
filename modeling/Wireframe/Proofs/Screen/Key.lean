import Wireframe.Document.Issue
import Wireframe.Screen.Key

/-!
# Keys and paths

The key of a node is the text of its path in the document (`Path.isAt_root`, `Path.IsAt.child`).
-/

namespace Wireframe

namespace Path

/-- Whether a path other than the top is written as a key. -/
structure IsAt (path : Path) (key : Key) : Prop where
  below : path.segments ≠ []
  text_eq : path.text = key.text

/-- The root of a document is at the root key. -/
theorem isAt_root : (top.key "root").IsAt .root :=
  ⟨by simp [key], rfl⟩

/-- A child of a node is at the key of the child. -/
theorem IsAt.child {path : Path} {key : Key} (isAt : path.IsAt key) (index : Nat) :
    ((path.key "children").index index).IsAt (key.child index) := by
  obtain ⟨below, text_eq⟩ := isAt
  have segments_eq : ((path.key "children").index index).segments =
      path.segments ++ [.key "children", .index index] := by
    simp [Path.key, Path.index]
  have deeper : ((path.key "children").index index).segments ≠ [] := by simp [segments_eq]
  refine ⟨deeper, ?_⟩
  rw [text, if_neg below] at text_eq
  calc ((path.key "children").index index).text
      = String.intercalate "." (path.segments.map Segment.text) ++ "." ++
          ("children" ++ "." ++ String.ofList (Layout.digitChars index)) := by
        rw [text, if_neg deeper, segments_eq, List.map_append,
          String.intercalate_append_of_ne_nil (by simpa using below) (by simp)]
        rfl
    _ = key.text ++ ("." ++ "children" ++ ".") ++ String.ofList (Layout.digitChars index) := by
        simp only [text_eq, String.append_assoc]
    _ = (key.child index).text := rfl

/-- The id that a node gets from its path is its key. -/
theorem IsAt.nodeId_eq {path : Path} {key : Key} (isAt : path.IsAt key) :
    path.nodeId = key.text := by
  rw [nodeId, if_neg isAt.below, isAt.text_eq]

end Path

end Wireframe
