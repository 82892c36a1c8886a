import Wireframe.Json.Token

/-!
# Writing JSON

A value is first a list of tokens. `Json.compact` puts their texts side by side; `Json.pretty`
starts every item and member on a line of its own, indented by two spaces for each level.
Empty arrays and objects stay on one line.
-/

namespace Wireframe.Json

mutual

/-- The tokens of a value. -/
def tokens : Json → List Token
  | .null => [.null]
  | .bool value => [.bool value]
  | .number value => [.number value]
  | .string value => [.string value]
  | .array items => .openArray :: tokensItems items
  | .object members => .openObject :: tokensMembers members

/-- The tokens of the items and of the bracket that closes them. -/
def tokensItems : List Json → List Token
  | [] => [.closeArray]
  | item :: rest => tokens item ++ tokensMoreItems rest

/-- The tokens of further items, each behind a comma. -/
def tokensMoreItems : List Json → List Token
  | [] => [.closeArray]
  | item :: rest => .comma :: (tokens item ++ tokensMoreItems rest)

/-- The tokens of the members and of the brace that closes them. -/
def tokensMembers : Members → List Token
  | [] => [.closeObject]
  | (name, value) :: rest => .string name :: .colon :: (tokens value ++ tokensMoreMembers rest)

/-- The tokens of further members, each behind a comma. -/
def tokensMoreMembers : Members → List Token
  | [] => [.closeObject]
  | (name, value) :: rest =>
    .comma :: .string name :: .colon :: (tokens value ++ tokensMoreMembers rest)

end

/-- The characters of a value without spaces. -/
def compactChars (j : Json) : List Char :=
  (tokens j).flatMap Token.chars

/-- The text of a value without spaces. -/
def compact (j : Json) : String :=
  String.ofList (compactChars j)

/-- A new line at a level. -/
def lineBreak (level : Nat) : List Char :=
  '\n' :: List.replicate (2 * level) ' '

mutual

/-- The characters of a value that stands at a level. -/
def prettyChars (level : Nat) : Json → List Char
  | .null => Token.null.chars
  | .bool value => (Token.bool value).chars
  | .number value => value.chars
  | .string value => Token.quoted value
  | .array [] => ['[', ']']
  | .array (item :: rest) =>
    '[' :: lineBreak (level + 1) ++ prettyChars (level + 1) item ++ prettyItems level rest
  | .object [] => ['\x7b', '\x7d']
  | .object ((name, value) :: rest) =>
    '\x7b' :: lineBreak (level + 1) ++ Token.quoted name ++ [':', ' '] ++
      prettyChars (level + 1) value ++ prettyMembers level rest

/-- Further items and the closing bracket. -/
def prettyItems (level : Nat) : List Json → List Char
  | [] => lineBreak level ++ [']']
  | item :: rest =>
    ',' :: lineBreak (level + 1) ++ prettyChars (level + 1) item ++ prettyItems level rest

/-- Further members and the closing brace. -/
def prettyMembers (level : Nat) : Members → List Char
  | [] => lineBreak level ++ ['\x7d']
  | (name, value) :: rest =>
    ',' :: lineBreak (level + 1) ++ Token.quoted name ++ [':', ' '] ++
      prettyChars (level + 1) value ++ prettyMembers level rest

end

/-- The text of a value with one item or member on a line. -/
def pretty (j : Json) : String :=
  String.ofList (prettyChars 0 j)

end Wireframe.Json
