/-!
# Markup

Pages are trees of tags with attributes and text. Text and attribute values may be any text;
`Markup.chars` is the one place where trees become characters, and it writes the five
characters that mean something in markup as entities. Tags come from two fixed sets, those
that hold content and those that do not, so what is written is well nested.
-/

namespace Wireframe

/-- The entity of a character that means something in markup, else the character itself. -/
def escapeChar : Char → List Char
  | '&' => ['&', 'a', 'm', 'p', ';']
  | '<' => ['&', 'l', 't', ';']
  | '>' => ['&', 'g', 't', ';']
  | '"' => ['&', 'q', 'u', 'o', 't', ';']
  | '\'' => ['&', '#', '3', '9', ';']
  | c => [c]

/-- The characters that mean something in markup, in the order in which they are replaced. Entities
begin with the first of them. -/
def escapedMarks : List Char :=
  ['&', '<', '>', '"', '\'']

/-- A text with another one in each place of a character. -/
def replaceChar (mark : Char) (replacement text : List Char) : List Char :=
  text.flatMap fun c => if c = mark then replacement else [c]

/-- Text without characters that mean something in markup. Each of them is replaced in the whole of
what the one before it left. -/
def escapeChars (cs : List Char) : List Char :=
  escapedMarks.foldl (fun text mark => replaceChar mark (escapeChar mark) text) cs

/-- Tags that hold content. -/
inductive Tag where
  | div
  | form
  | h1
  | h2
  | h3
  | p
  | label
  | button
deriving DecidableEq

/-- Tags without content. -/
inductive VoidTag where
  | input
  | img
deriving DecidableEq

/-- The name of a tag. -/
def Tag.name : Tag → String
  | div => "div"
  | form => "form"
  | h1 => "h1"
  | h2 => "h2"
  | h3 => "h3"
  | p => "p"
  | label => "label"
  | button => "button"

/-- The name of a tag. -/
def VoidTag.name : VoidTag → String
  | input => "input"
  | img => "img"

/-- An attribute, with a value or without. -/
structure Attribute where
  name : String
  value : Option String
deriving DecidableEq

/-- An attribute with a value. -/
def Attribute.of (name value : String) : Attribute :=
  ⟨name, some value⟩

/-- The characters of an attribute behind its blank. -/
def Attribute.chars (a : Attribute) : List Char :=
  ' ' :: a.name.toList ++
    match a.value with
    | some value => '=' :: '"' :: escapeChars value.toList ++ ['"']
    | none => []

/-- A piece of a page. -/
inductive Markup where
  | text (content : String)
  | void (tag : VoidTag) (attributes : List Attribute)
  | element (tag : Tag) (attributes : List Attribute) (content : List Markup)

namespace Markup

/-- The characters of a tag that opens. -/
def openChars (name : String) (attributes : List Attribute) : List Char :=
  '<' :: name.toList ++ attributes.flatMap Attribute.chars ++ ['>']

/-- The characters of a tag that closes. -/
def closeChars (name : String) : List Char :=
  '<' :: '/' :: name.toList ++ ['>']

mutual

/-- The characters of a piece. -/
def chars : Markup → List Char
  | text content => escapeChars content.toList
  | void tag attributes => openChars tag.name attributes
  | element tag attributes content =>
    openChars tag.name attributes ++ charsAll content ++ closeChars tag.name

/-- The characters of pieces side by side. -/
def charsAll : List Markup → List Char
  | [] => []
  | piece :: rest => chars piece ++ charsAll rest

end

end Markup

end Wireframe
