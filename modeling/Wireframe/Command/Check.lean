import Wireframe.Command.Outcome

/-!
# The checker

The checker takes files one after the other and says of each whether it is a document, or can
be converted to one. What is wrong with a file goes to the errors, and one bad file makes the
checker fail.
-/

namespace Wireframe

namespace Checker

/-- How the checker is called. -/
def usage : String :=
  "Usage: uiforge-validate [--fallback] [--any-version] <file.json>...\n\n" ++
  "Options:\n" ++
  "  --fallback      try heuristic conversion when validation fails\n" ++
  "  --any-version   with --fallback, also convert on version mismatch\n\n" ++
  "Examples:\n" ++
  "  uiforge-validate ui.json\n" ++
  "  uiforge-validate --fallback *.json\n"

/-- Arguments that begin with two hyphens are no files. -/
def isFile (argument : String) : Bool :=
  !"--".toList.isPrefixOf argument.toList

/-- How the arguments have documents taken in. -/
def policy (fresh : Path → String) (arguments : List String) : IngestPolicy :=
  ⟨arguments.contains "--any-version", arguments.contains "--fallback",
    ⟨fresh, defaultMaxDepth⟩⟩

/-- What is said of a file that was taken in. -/
def praise (file : String) : Origin → String
  | .validated => "✓ " ++ file ++ " is valid\n"
  | .converted strategy => "✓ " ++ file ++ " converted (" ++ strategy ++ ")\n"

/-- What is said of a file with errors, before the errors. -/
def blame (file : String) : String :=
  "✗ " ++ file ++ " has errors:\n"

/-- The errors of a file that was not taken in. -/
def issueLines (error : IngestError) : String :=
  let miss := match error with
    | .conversionMiss _ => "  No heuristic matched\n"
    | .invalid _ => ""
  miss ++ String.join (error.issues.map fun issue => "    " ++ issue.text ++ "\n")

/-- One file checked. -/
def checkFile (policy : IngestPolicy) (files : Files) (file : String) : Outcome :=
  match files.read ⟨file⟩ with
  | .error e => ⟨1, "", blame file ++ "  Failed to read file: " ++ e.message ++ "\n"⟩
  | .ok text =>
    match Json.parse? text with
    | none => ⟨1, "", blame file ++ "  JSON error:\n    " ++ Json.refusal ++ "\n"⟩
    | some raw =>
      match ingest policy Strategy.standard raw with
      | .ok i => .printed (praise file i.origin)
      | .error e => ⟨1, "", blame file ++ issueLines e⟩

/-- One outcome behind another. The code of a failure stays. -/
def andThen (first second : Outcome) : Outcome :=
  ⟨max first.code second.code, first.output ++ second.output, first.errors ++ second.errors⟩

/-- All files checked. -/
def run (fresh : Path → String) (files : Files) (arguments : List String) : Outcome :=
  let named := arguments.filter isFile
  if named = [] then ⟨1, "", usage⟩
  else
    (named.map (checkFile (policy fresh arguments) files)).foldl andThen (.printed "")

end Checker

end Wireframe
