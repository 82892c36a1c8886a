import Wireframe.Screen.Key
import Wireframe.Time.Timestamp

/-!
# Accessibility reports

A report lists the focus order of a document, images without alternative text, inputs without a
label and the contrast of text on its background, and ticks off a checklist from them. What
cannot be computed stays open for a human look. It is written as Markdown.
-/

namespace Wireframe

/-- An element that takes the focus. -/
structure FocusStop where
  key : Key
  id : String
  /-- Either input or button. -/
  kind : NodeType
  label : String
deriving DecidableEq

/-- The result of a check. -/
inductive CheckStatus where
  | pass
  | fail
  /-- Needs a human look. -/
  | pending
deriving DecidableEq

/-- A line of the checklist. -/
structure CheckItem where
  label : String
  status : CheckStatus
deriving DecidableEq

/-- What a document means for people who cannot see it all or use a pointer. -/
structure AccessibilityReport where
  focusOrder : List FocusStop
  /-- Ids of images whose alternative text is blank. -/
  imagesMissingAlt : List String
  /-- Ids of inputs whose label is absent or blank. -/
  inputsMissingLabel : List String
  contrast : Option Contrast

namespace AccessibilityReport

/-- The stop of a node, none if it takes no focus. Inputs are announced by label, placeholder
or name, whichever comes first. -/
def focusStop? (key : Key) : Node → Option FocusStop
  | .leaf (.input i) =>
    some ⟨key, i.id, .input, (i.label.or i.placeholder).getD i.name⟩
  | .leaf (.button b) => some ⟨key, b.id, .button, b.text⟩
  | _ => none

/-- The id of an image without alternative text. -/
def imageMissingAlt? : Node → Option String
  | .leaf (.image i) => if Chars.isBlankText i.alt then some i.id else none
  | _ => none

/-- The id of an input without label. -/
def inputMissingLabel? : Node → Option String
  | .leaf (.input i) => if i.label.all Chars.isBlankText then some i.id else none
  | _ => none

/-- The report once a node has been looked at. -/
def visit (r : AccessibilityReport) (key : Key) (node : Node) : AccessibilityReport :=
  { r with
    focusOrder := r.focusOrder ++ (focusStop? key node).toList
    imagesMissingAlt := r.imagesMissingAlt ++ (imageMissingAlt? node).toList
    inputsMissingLabel := r.inputsMissingLabel ++ (inputMissingLabel? node).toList }

/-- The report on a document. -/
def ofDocument (d : Document) : AccessibilityReport :=
  d.root.walk visit ⟨[], [], [], d.palette.bind Palette.textContrast⟩ .root

/-- The status of a check that was computed. -/
def computed (ok : Bool) : CheckStatus :=
  if ok then .pass else .fail

/-- The checklist. -/
def checklist (r : AccessibilityReport) : List CheckItem :=
  let contrast := match r.contrast with
    | some c => computed c.passesAA
    | none => .pending
  [⟨"Adequate contrast (WCAG AA 4.5:1)", contrast⟩,
    ⟨"Logical focus order", .pending⟩,
    ⟨"Responsive layout (320px, 768px, 1024px)", .pending⟩,
    ⟨"Reduced motion respected", .pending⟩,
    ⟨"Alternative text on images", computed r.imagesMissingAlt.isEmpty⟩,
    ⟨"Form fields have labels", computed r.inputsMissingLabel.isEmpty⟩]

/-! ## Markdown -/

/-- A text between code marks. -/
def code (s : String) : String :=
  "`" ++ s ++ "`"

/-- Lines, each with its end. -/
def lines (ls : List String) : String :=
  String.join (ls.map fun l => l ++ "\n")

/-- The section on contrast. -/
def contrastLines (c : Contrast) : List String :=
  let status :=
    if c.passesAAA then "PASS (AAA)" else if c.passesAA then "PASS (AA)" else "FAIL"
  ["## Contrast", "",
    "- **Ratio:** " ++ fixedFloat 2 c.ratio ++ ":1",
    "- **Status:** " ++ status ++ " (AA needs 4.5:1)",
    "- **Colors:** " ++ c.foreground ++ " on " ++ c.background, ""]

/-- A stop with its number. -/
def stopLine (number : Nat) (stop : FocusStop) : String :=
  String.ofList (Layout.digitChars number) ++ ". " ++ Choices.word stop.kind ++ " " ++
    code stop.id ++ ": " ++ stop.label

/-- The section on focus. -/
def focusLines (stops : List FocusStop) : List String :=
  ["## Focus order", ""] ++
  (if stops = [] then ["_No focusable elements._"] else []) ++
  (stops.zipIdx 1).map (fun entry => stopLine entry.2 entry.1) ++
  [""]

/-- A section that lists ids, left out when there are none. -/
def idLines (title : String) (ids : List String) : List String :=
  if ids = [] then [] else ["## " ++ title, ""] ++ ids.map (fun id => "- " ++ code id) ++ [""]

/-- A line of the checklist. -/
def checkLine (item : CheckItem) : String :=
  match item.status with
  | .pass => "- [x] " ++ item.label
  | .fail => "- [ ] " ++ item.label ++ " (fail)"
  | .pending => "- [ ] " ++ item.label

/-- The report as Markdown, with the instant at which it was made. -/
def markdown (r : AccessibilityReport) (madeAt : Timestamp) : String :=
  lines <|
    ["# QA Report", "", "**Generated at:** " ++ madeAt.secondsText ++ " UTC", ""] ++
    (r.contrast.map contrastLines).getD [] ++
    focusLines r.focusOrder ++
    idLines "Images without alt text" r.imagesMissingAlt ++
    idLines "Inputs without label" r.inputsMissingLabel ++
    ["## Checklist", ""] ++ r.checklist.map checkLine

end AccessibilityReport

end Wireframe
