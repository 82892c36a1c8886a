import Wireframe.Chars.Case
import Wireframe.Document.Encoding

/-!
# Converting loose JSON

Some JSON is no document but clearly means a screen. A `Strategy` rebuilds a document from what
it recognises, and is a function: the same value always gives the same document. Strategies are
tried in order and the first match wins.

`Strategy.keywordLogin` looks for words in the whole written value and for references to
images. Words make a login screen with the fields that they name, an image alone makes a card.
-/

namespace Wireframe

/-- Which groups of words occur in a value. -/
structure Keywords where
  email : Bool
  password : Bool
  action : Bool
deriving DecidableEq

namespace Keywords

/-- Words for an address field. -/
def emailWords : List String := ["email"]

/-- Words for a password field. -/
def passwordWords : List String := ["password", "senha"]

/-- Words for a button. -/
def actionWords : List String := ["button", "continu", "login", "entrar"]

/-- Whether one of the words stands in a text. -/
def anyIn (words : List String) (text : List Char) : Bool :=
  words.any fun word => Chars.contains word.toList text

/-- The groups that occur in the written value, keys included, in whatever letter case. -/
def ofJson (raw : Json) : Keywords :=
  let text := Chars.lowercase raw.compactChars
  ⟨anyIn emailWords text, anyIn passwordWords text, anyIn actionWords text⟩

/-- Whether any group occurs. -/
def any (k : Keywords) : Bool :=
  k.email || k.password || k.action

end Keywords

/-- Whether a text refers to an image: by a data address at its start, a web address anywhere,
or a file ending, in whatever letter case. -/
def isImageReference (s : String) : Bool :=
  let text := s.toList.map Chars.foldLatin
  "data:image/".toList.isPrefixOf text ||
    Chars.contains "http://".toList text || Chars.contains "https://".toList text ||
    ".png".toList.isSuffixOf text || ".jpg".toList.isSuffixOf text ||
    ".jpeg".toList.isSuffixOf text

namespace Json

mutual

/-- String values that refer to images, depth first in source order. -/
def imageReferences : Json → List String
  | .string value => if isImageReference value then [value] else []
  | .array items => imageReferencesItems items
  | .object members => imageReferencesMembers members
  | .null | .bool _ | .number _ => []

/-- References in items. -/
def imageReferencesItems : List Json → List String
  | [] => []
  | item :: rest => imageReferences item ++ imageReferencesItems rest

/-- References in the values of members. -/
def imageReferencesMembers : Members → List String
  | [] => []
  | (_, value) :: rest => imageReferences value ++ imageReferencesMembers rest

end

end Json

/-- A named way to make a document from a raw value. -/
structure Strategy where
  name : String
  convert : Json → Option Document

namespace Strategy

/-- An image by its reference. -/
def imageNode (src alt : String) : Node :=
  .leaf (.image ⟨"img", src, alt, none, none, defaults.imageRadius⟩)

/-- The fields that the words name: address, password, button. -/
def loginFields (k : Keywords) : List Node :=
  (if k.email then
    [.leaf (.input ⟨"email", "email", none, some "Email", .email, true⟩)] else []) ++
  (if k.password then
    [.leaf (.input ⟨"pass", "password", none, some "Password", .password, true⟩)] else []) ++
  (if k.action then
    [.leaf (.button ⟨"cta", "Continue", .primary, defaults.debounceMs⟩)] else [])

/-- A login screen, below an image if there is one. -/
def loginScreen (k : Keywords) (image : Option String) : Node :=
  .group (.container ⟨"root", .vertical, defaults.gap, defaults.padding⟩) <|
    (image.map fun src => imageNode src "preview").toList ++
      [.leaf (.text ⟨"title", "Login", .h2⟩), .group (.form ⟨"form"⟩) (loginFields k)]

/-- A card that shows one image. -/
def imageCard (src : String) : Node :=
  .group (.card ⟨"card", defaults.padding⟩)
    [imageNode src "image", .leaf (.text ⟨"tx", "Imagem", .h3⟩)]

/-- Login screens by their words, single images by their reference. -/
def keywordLogin : Strategy where
  name := "keyword-login"
  convert raw :=
    let keywords := Keywords.ofJson raw
    let image := raw.imageReferences.head?
    if keywords.any then some (.ofRoot (loginScreen keywords image))
    else image.map fun src => .ofRoot (imageCard src)

/-- The strategies of a converter that is not set up otherwise. -/
def standard : List Strategy := [keywordLogin]

/-- The first document that a strategy makes, with the strategy's name. -/
def convertFirst (strategies : List Strategy) (raw : Json) : Option (String × Document) :=
  strategies.findSome? fun strategy => (strategy.convert raw).map fun d => (strategy.name, d)

end Strategy

end Wireframe
