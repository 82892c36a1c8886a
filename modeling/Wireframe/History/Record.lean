import Wireframe.Document.Decoding
import Wireframe.Json.Reader
import Wireframe.Time.Timestamp

/-!
# Records of the history

A record is a document as it was when it became current, with the time and the reason. The
document is kept as written and checked again before it is used. A list of records is stored as
one JSON array, oldest first.
-/

namespace Wireframe

/-- Why a document became current. -/
inductive SourceTag where
  | upload
  | sample
  | converted
  | chat
  | hybrid
  | restored
deriving DecidableEq

instance : Choices SourceTag where
  all := [.upload, .sample, .converted, .chat, .hybrid, .restored]
  word
    | .upload => "upload"
    | .sample => "sample"
    | .converted => "converted"
    | .chat => "chat"
    | .hybrid => "hybrid"
    | .restored => "restored"

/-- What sets a new record apart: its id and its time. -/
structure Stamp where
  id : String
  time : Timestamp

/-- One entry of the history. -/
structure HistoryRecord where
  id : String
  createdAt : Timestamp
  sourceTag : SourceTag
  document : Json
  summary : Option String
  generatedCode : Option String
  qaText : Option String

namespace HistoryRecord

/-- The record of a document. -/
def ofDocument (stamp : Stamp) (tag : SourceTag) (d : Document) : HistoryRecord :=
  ⟨stamp.id, stamp.time, tag, d.toJson, none, none, none⟩

/-- The written form of a record. -/
def toJson (r : HistoryRecord) : Json :=
  .object <|
    [("id", .string r.id), ("createdAt", .string r.createdAt.text),
      ("sourceTag", .ofChoice r.sourceTag), ("document", r.document)] ++
    optionalMember "summary" .string r.summary ++
    optionalMember "generatedCode" .string r.generatedCode ++
    optionalMember "qaText" .string r.qaText

/-- The fields of a record in their order. The last three may be missing. -/
def fieldNames : List String :=
  ["id", "createdAt", "sourceTag", "document", "summary", "generatedCode", "qaText"]

/-- How many fields a record has at least. -/
def requiredFields : Nat := 4

/-- Whether a field occurs twice. -/
def repeatsField (members : Members) : Bool :=
  fieldNames.any fun name => 1 < members.countP fun m => m.1 = name

/-- The members of a record, from an object that has no field twice or from an array of its
fields. -/
def members? : Json → Option Members
  | .object members => if repeatsField members then none else some members
  | .array items =>
    if requiredFields ≤ items.length ∧ items.length ≤ fieldNames.length then
      some (fieldNames.zip items)
    else none
  | _ => none

/-- A record from its written form. -/
def decode? (raw : Json) : Option HistoryRecord := do
  let members ← members? raw
  let id ← members.string? "id"
  let createdAt ← (members.string? "createdAt").bind Timestamp.parse?
  let sourceTag ← (members.get? "sourceTag").bind Json.choice?
  let document ← members.get? "document"
  let summary ← members.optionalString? "summary"
  let generatedCode ← members.optionalString? "generatedCode"
  let qaText ← members.optionalString? "qaText"
  some ⟨id, createdAt, sourceTag, document.settled, summary, generatedCode, qaText⟩

/-- The text that stores records. -/
def encodeAll (records : List HistoryRecord) : String :=
  (Json.array (records.map toJson)).compact

/-- The records in a stored text. The text has to be a value as a whole, also in members of a record
that are none of its fields. A reader that passes over such members without a look takes some texts
more : those that are refused here for a number out of range, half of a surrogate pair or too deep
a nest in such a member. -/
def decodeAll? (text : String) : Option (List HistoryRecord) :=
  match Json.read? Json.nestingBound text with
  | some (.array items) => items.mapM decode?
  | _ => none

end HistoryRecord

end Wireframe
