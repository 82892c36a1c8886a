import Wireframe.Document.Ingest
import Wireframe.Files.Location

/-!
# Configuration

Settings come from named variables. Blanks around a value do not count, and a value that is
empty or cannot be read leaves the default in place: no variable is an error.
-/

namespace Wireframe

/-- What can be set from outside. -/
structure Config where
  generationUrl : String
  apiKey : Option String
  timeoutMs : Nat
  historyDirectory : Location
  historyLimit : Nat
  /-- Convert values that declare another version of the language. -/
  anyVersion : Bool
  /-- Name nodes without id by their place. -/
  stableIds : Bool

namespace Config

/-- The settings where no variable says otherwise. -/
def standard : Config where
  generationUrl := "http://127.0.0.1:8787/api"
  apiKey := none
  timeoutMs := 30000
  historyDirectory := ⟨".uiforge"⟩
  historyLimit := 30
  anyVersion := false
  stableIds := false

/-- Whether two configurations set the same. -/
def same (a b : Config) : Bool :=
  a.generationUrl = b.generationUrl && a.apiKey = b.apiKey && a.timeoutMs = b.timeoutMs &&
    a.historyDirectory.same b.historyDirectory && a.historyLimit = b.historyLimit &&
    a.anyVersion = b.anyVersion && a.stableIds = b.stableIds

/-- Words that switch something on. -/
def onWords : List String := ["1", "true", "yes", "on"]

/-- Whether a value switches something on. Everything else switches it off. -/
def readsAsOn (value : String) : Bool :=
  onWords.contains (String.ofList (value.toList.map Char.toLower))

/-- A count below `2 ^ 64` in decimal digits, which may follow one plus sign. -/
def count? (value : String) : Option Nat :=
  let digits := match value.toList with
    | '+' :: rest => rest
    | other => other
  if digits = [] ∨ digits.any (fun c => !c.isDigit) then none
  else
    let n := Nat.ofDigitChars 10 digits 0
    if n < pow2 64 then some n else none

/-- The value of a variable, trimmed, if anything is left of it. -/
def setting? (lookup : String → Option String) (name : String) : Option String :=
  ((lookup name).map Chars.trim).filter fun value => value ≠ ""

/-- The variables that count. -/
def variableNames : List String :=
  ["UIFORGE_GENERATION_URL", "UIFORGE_API_KEY", "UIFORGE_TIMEOUT_MS", "UIFORGE_HISTORY_DIR",
    "UIFORGE_HISTORY_LIMIT", "UIFORGE_FALLBACK_ON_VERSION_MISMATCH", "UIFORGE_STABLE_IDS"]

/-- The configuration that the variables set. -/
def ofVariables (lookup : String → Option String) : Config where
  generationUrl := (setting? lookup "UIFORGE_GENERATION_URL").getD standard.generationUrl
  apiKey := setting? lookup "UIFORGE_API_KEY"
  timeoutMs := ((setting? lookup "UIFORGE_TIMEOUT_MS").bind count?).getD standard.timeoutMs
  historyDirectory :=
    ((setting? lookup "UIFORGE_HISTORY_DIR").map Location.mk).getD standard.historyDirectory
  historyLimit :=
    (((setting? lookup "UIFORGE_HISTORY_LIMIT").bind count?).filter fun n => 0 < n).getD
      standard.historyLimit
  anyVersion :=
    ((setting? lookup "UIFORGE_FALLBACK_ON_VERSION_MISMATCH").map readsAsOn).getD
      standard.anyVersion
  stableIds := ((setting? lookup "UIFORGE_STABLE_IDS").map readsAsOn).getD standard.stableIds

/-- How documents are validated, given a source of fresh ids. -/
def validation (c : Config) (fresh : Path → String) : ValidationOptions :=
  ⟨if c.stableIds then Path.nodeId else fresh, defaultMaxDepth⟩

/-- How documents are taken in, given a source of fresh ids. -/
def policy (c : Config) (fresh : Path → String) : IngestPolicy :=
  ⟨c.anyVersion, true, c.validation fresh⟩

end Config

end Wireframe
