import Wireframe.Document.Node
import Wireframe.Document.Palette

/-!
# Documents

A document is one screen with its palette. It is replaced as a whole and never edited in place.
-/

namespace Wireframe

/-- The version of the document language. -/
def languageVersion : String := "0.1"

/-- A screen in its canonical form. -/
structure Document where
  version : String
  palette : Option Palette
  root : Node
deriving DecidableEq

namespace Document

/-- A document of the current version without palette. -/
def ofRoot (root : Node) : Document :=
  ⟨languageVersion, none, root⟩

/-- All nodes in pre-order. -/
def nodes (d : Document) : List Node :=
  d.root.descendants

/-- The first node with that id, in pre-order. -/
def find? (d : Document) (id : String) : Option Node :=
  d.nodes.find? fun node => node.id = id

/-- The built-in first document, a small login screen. -/
def sample : Document :=
  let input (id name label : String) (kind : InputKind) : Node :=
    .leaf (.input ⟨id, name, some label, none, kind, true⟩)
  ofRoot <|
    .group (.container ⟨"root", .vertical, defaults.gap, defaults.padding⟩) [
      .leaf (.text ⟨"title", "Sign in", .h2⟩),
      .group (.form ⟨"form"⟩) [
        input "email" "email" "Email" .email,
        input "pass" "password" "Password" .password,
        .leaf (.button ⟨"cta", "Continue", .primary, defaults.debounceMs⟩)]]

end Document

end Wireframe
