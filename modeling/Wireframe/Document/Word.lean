/-!
# Words for choices

Some fields of a document choose from a short list of words. A type of `Choices` lists its
values in their documented order and names each; reading a word back is looking it up there.
-/

namespace Wireframe

/-- A type whose values are written as words. -/
class Choices (α : Type) where
  /-- All values, in the order in which they are listed to the reader. -/
  all : List α
  /-- The word of a value. -/
  word : α → String

namespace Choices

/-- The words of all values. -/
def words (α : Type) [Choices α] : List String :=
  (all : List α).map word

variable {α : Type} [Choices α]

/-- The value that a word names. -/
def ofWord? (word : String) : Option α :=
  all.find? fun value => Choices.word value = word

end Choices

/-- Words in single quotes with a bar between them. -/
def quotedWords (words : List String) : String :=
  String.intercalate " | " (words.map fun word => "'" ++ word ++ "'")

end Wireframe
