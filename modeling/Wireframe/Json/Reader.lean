import Wireframe.Json.Printer

/-!
# Reading JSON

A reader takes the tokens of a text one at a time and keeps the arrays and objects that are
still open. It refuses a token that cannot stand where it comes, and an array or object that
would be nested deeper than a bound. `Json.parse?` reads a whole text with the bound that all
JSON of this library has, 127 levels.
-/

namespace Wireframe.Json

/-- An array or object still open, the finished parts in reverse. -/
inductive Frame where
  | array (items : List Json)
  | object (members : Members) (name : String)

/-- What may come next in a text. -/
inductive Reader where
  /-- A value. -/
  | awaitValue (stack : List Frame)
  /-- A value or the end of an array just opened. -/
  | awaitItem (stack : List Frame)
  /-- A name or the end of an object just opened. -/
  | awaitName (stack : List Frame)
  /-- A further name. -/
  | awaitNextName (stack : List Frame) (members : Members)
  /-- The colon behind a name. -/
  | awaitColon (stack : List Frame) (members : Members) (name : String)
  /-- A comma or the end of the innermost array or object. -/
  | awaitEnd (frame : Frame) (stack : List Frame)
  /-- Nothing: the value is complete. -/
  | complete (value : Json)

namespace Reader

/-- A finished value goes into the innermost open array or object. -/
def place (value : Json) : List Frame → Reader
  | [] => .complete value
  | .array items :: stack => .awaitEnd (.array (value :: items)) stack
  | .object members name :: stack => .awaitEnd (.object ((name, value) :: members) name) stack

/-- A token where a value is expected. The stack may hold `bound` frames. -/
def start? (bound : Nat) (stack : List Frame) : Token → Option Reader
  | .null => some (place .null stack)
  | .bool value => some (place (.bool value) stack)
  | .number value => some (place (.number value) stack)
  | .string value => some (place (.string value) stack)
  | .openArray => if stack.length < bound then some (.awaitItem stack) else none
  | .openObject => if stack.length < bound then some (.awaitName stack) else none
  | _ => none

/-- What may come after one more token. -/
def step? (bound : Nat) : Reader → Token → Option Reader
  | .awaitValue stack, token => start? bound stack token
  | .awaitItem stack, .closeArray => some (place (.array []) stack)
  | .awaitItem stack, token => start? bound (.array [] :: stack) token
  | .awaitName stack, .closeObject => some (place (.object []) stack)
  | .awaitName stack, .string name => some (.awaitColon stack [] name)
  | .awaitNextName stack members, .string name => some (.awaitColon stack members name)
  | .awaitColon stack members name, .colon => some (.awaitValue (.object members name :: stack))
  | .awaitEnd (.array items) stack, .comma => some (.awaitValue (.array items :: stack))
  | .awaitEnd (.array items) stack, .closeArray => some (place (.array items.reverse) stack)
  | .awaitEnd (.object members _) stack, .comma => some (.awaitNextName stack members)
  | .awaitEnd (.object members _) stack, .closeObject =>
    some (place (.object members.reverse) stack)
  | _, _ => none

/-- The value that has been read, if it is complete. -/
def value? : Reader → Option Json
  | .complete value => some value
  | _ => none

end Reader

/-- Levels of nesting that text may have. -/
def nestingBound : Nat := 127

/-- The value of a text as it stands there, repeated members included, none if the text is no
JSON or nested beyond the bound. -/
def read? (bound : Nat) (text : String) : Option Json :=
  (Token.feed? (Reader.step? bound) .between (.awaitValue []) text.toList).bind Reader.value?

/-- What is said of a text that cannot be read. -/
def refusal : String :=
  "the text is not JSON"

/-- The value of a text, repeated members settled. -/
def parse? (text : String) : Option Json :=
  (read? nestingBound text).map settled

end Wireframe.Json
