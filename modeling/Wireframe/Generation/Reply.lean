import Wireframe.Chars.Printable
import Wireframe.Json.Reader

/-!
# Replies of the generation service

A reply is a JSON object that holds a document and some texts, each field under its name or an
older one. Nothing about it is trusted: the document stays a raw value. The object may stand in
prose, and then the span from its first opening brace to its last closing brace counts. An
object with an `error` member is a refusal. A reply may also be an array of its fields in their
order, of which only the document has to be there.
-/

namespace Wireframe

/-- A field of a reply with the other names it goes by. -/
structure ReplyField where
  name : String
  aliases : List String

/-- What a kind of reply holds besides its document. -/
structure ReplyForm where
  /-- The name of the kind in messages. -/
  name : String
  texts : List ReplyField

/-- Why a body is no reply. -/
inductive ReplyFault where
  | noObject
  | notJson
  | missingDocument
  | repeated (field : String)
  /-- The value has another type than the text says. -/
  | wrongType (value : Json) (expected : String)
  /-- An array without elements stands for a reply of that kind. -/
  | empty (form : ReplyForm)
  | tooLong (length : Nat)

namespace ReplyForm

/-- The document of a reply. -/
def documentField : ReplyField :=
  ⟨"document", ["dsl"]⟩

/-- All fields in their order. -/
def fields (form : ReplyForm) : List ReplyField :=
  documentField :: form.texts

/-- The field that a name stands for. -/
def fieldOf? (form : ReplyForm) (name : String) : Option String :=
  (form.fields.find? fun field => field.name = name || field.aliases.contains name).map
    ReplyField.name

end ReplyForm

namespace ReplyFault

/-- A value as it is shown where another type is expected. -/
def describe : Json → String
  | .null => "null"
  | .bool value => "boolean `" ++ (if value then "true" else "false") ++ "`"
  | .number (.integer value) => "integer `" ++ (Number.integer value).text ++ "`"
  | .number (.double value) => "floating point `" ++ (Number.double value).text ++ "`"
  | .string value => "string " ++ Chars.quotedVisibly value
  | .array _ => "sequence"
  | .object _ => "map"

/-- The wording of a fault. -/
def message : ReplyFault → String
  | noObject => "no JSON object in reply"
  | notJson => "the object in the reply is not JSON"
  | missingDocument => "missing field `document`"
  | repeated field => "duplicate field `" ++ field ++ "`"
  | wrongType value expected => "invalid type: " ++ describe value ++ ", expected " ++ expected
  | empty form =>
    "invalid length 0, expected struct " ++ form.name ++ " with " ++
      (Json.ofNat form.fields.length).compact ++ " elements"
  | tooLong length =>
    "invalid length " ++ (Json.ofNat length).compact ++ ", expected fewer elements in array"

end ReplyFault

namespace ReplyForm

/-- The fields found so far and one more, under its first name. Texts may be null. -/
def take (found : Members) (field : String) (value : Json) : Except ReplyFault Members :=
  if (found.get? field).isSome then .error (.repeated field)
  else if field = documentField.name then .ok (found ++ [(field, value)])
  else match value with
    | .null | .string _ => .ok (found ++ [(field, value)])
    | other => .error (.wrongType other "a string")

/-- The fields among the members of an object, in their order. -/
def takeMembers (form : ReplyForm) (found : Members) : Members → Except ReplyFault Members
  | [] => .ok found
  | (name, value) :: rest =>
    match form.fieldOf? name with
    | none => takeMembers form found rest
    | some field =>
      match take found field value with
      | .error fault => .error fault
      | .ok found => takeMembers form found rest

/-- The fields of a value under their first names. The document is among them. -/
def fieldsOf (form : ReplyForm) : Json → Except ReplyFault Members
  | .object members => do
    let found ← form.takeMembers [] members
    if (found.get? documentField.name).isSome then return found else .error .missingDocument
  | .array [] => .error (.empty form)
  | .array items => do
    let found ← form.takeMembers [] ((form.fields.map ReplyField.name).zip items)
    if items.length ≤ form.fields.length then return found else .error (.tooLong items.length)
  | other => .error (.wrongType other ("struct " ++ form.name))

end ReplyForm

/-- A kind of reply. -/
class Reply (α : Type) where
  form : ReplyForm
  /-- The reply with a document and with texts under their names. -/
  ofFields : Json → (String → Option String) → α

/-- A proposed edit. -/
structure AssistReply where
  document : Json
  summary : Option String

/-- A proposed generation with its code and a report on it. -/
structure GenerateReply where
  document : Json
  generatedCode : Option String
  qaText : Option String

instance : Reply AssistReply where
  form := ⟨"AssistReply", [⟨"summary", []⟩]⟩
  ofFields document text := ⟨document, text "summary"⟩

instance : Reply GenerateReply where
  form := ⟨"GenerateReply", [⟨"generatedCode", ["tsx"]⟩, ⟨"qaText", ["qa"]⟩]⟩
  ofFields document text := ⟨document, text "generatedCode", text "qaText"⟩

/-- Why there is no reply. -/
inductive ServiceError where
  | unreachable
  /-- The service answered with an error status. -/
  | status (code : Nat) (message : String)
  /-- The service refused. `raw` is what its model said. -/
  | rejected (message : String) (raw : Option String)
  /-- The body `raw` is no reply. -/
  | malformed (fault : ReplyFault) (raw : String)

/-- The wording of an error. -/
def ServiceError.message : ServiceError → String
  | unreachable => "Generation service unreachable"
  | status code message =>
    "Generation service returned HTTP " ++ (Json.ofNat code).compact ++ ": " ++ message
  | rejected message _ => "Generation service refused the request: " ++ message
  | malformed fault _ => "Malformed generation reply: " ++ fault.message

namespace Reply

/-- The span from the first opening brace to the last closing brace behind it. -/
def block? (body : List Char) : Option (List Char) :=
  let fromBrace := body.dropWhile (· ≠ '\x7b')
  let upToBrace := (fromBrace.reverse.dropWhile (· ≠ '\x7d')).reverse
  if upToBrace = [] then none else some upToBrace

/-- The value that a body holds: all of it if it is JSON, else its span in braces. -/
def value? (body : String) : Except ReplyFault Json :=
  match Json.parse? body with
  | some value => .ok value
  | none =>
    match block? body.toList with
    | none => .error .noObject
    | some block =>
      match Json.parse? (String.ofList block) with
      | some value => .ok value
      | none => .error .notJson

/-- The `error` member of an object, unless it is null. -/
def refusal? (value : Json) : Option Json :=
  (value.get? "error").filter fun e => e.type ≠ .null

/-- The text of a refusal: a string as it is, another value as JSON. -/
def refusalText : Json → String
  | .string text => text
  | other => other.compact

/-- What the model said, under its name or the older one. -/
def modelText? (value : Json) : Option String :=
  ["rawText", "raw"].findSome? fun name => (value.get? name).bind Json.asString?

variable {α : Type} [Reply α]

/-- The reply that a value is. -/
def ofJson (value : Json) : Except ReplyFault α := do
  let found ← (form α).fieldsOf value
  return ofFields ((found.get? ReplyForm.documentField.name).getD .null) fun name =>
    (found.get? name).bind Json.asString?

/-- The reply in a body. -/
def decode (body : String) : Except ServiceError α :=
  match value? body with
  | .error fault => .error (.malformed fault body)
  | .ok value =>
    match refusal? value with
    | some e => .error (.rejected (refusalText e) (modelText? value))
    | none =>
      match ofJson value with
      | .ok reply => .ok reply
      | .error fault => .error (.malformed fault body)

end Reply

end Wireframe
