import Wireframe.Command.Arguments
import Wireframe.Command.Outcome
import Wireframe.Command.Variables
import Wireframe.Config
import Wireframe.Store.Directory
import Wireframe.Screen.Accessibility
import Wireframe.Screen.Html
import Wireframe.Session.Revision

/-!
# Commands

A command works on a tree of files: the documents that it is given, a file of variables, and
the directory of the history. Whatever comes from elsewhere, it finds in its surroundings. The
session of a command takes up the history where it ended.
-/

namespace Wireframe

/-- What a command finds around it. -/
structure Surroundings where
  environment : Variables
  /-- A source of ids for nodes. -/
  fresh : Path → String
  /-- The id for a new record, and the time. -/
  stamp : Stamp
  assist : AssistRequest → Except ServiceError AssistReply
  generate : GenerateRequest → Except ServiceError GenerateReply

/-- A command's result: what to say, and the files afterwards. -/
abbrev CommandResult := Except CommandFailure (Outcome × Files)

namespace Command

/-- The file of variables. -/
def variablesFile : Location :=
  ⟨".env"⟩

/-- The configuration that the variables set, those of the surroundings before those of the
file. -/
def config (around : Surroundings) (files : Files) : Config :=
  let vars := match files.read variablesFile with
    | .ok text => around.environment.readFile text
    | .error _ => around.environment
  Config.ofVariables vars.value?

/-- The text of a file. -/
def readFile (files : Files) (file : String) : Except CommandFailure String :=
  match files.read ⟨file⟩ with
  | .ok text => .ok text
  | .error e => .error (.unreadable file e)

/-- The document that a file is taken in as. -/
def ingestFile (c : Config) (around : Surroundings) (files : Files) (file : String) :
    Except CommandFailure Document := do
  let text ← readFile files file
  match Json.parse? text with
  | none => .error (.notJson file)
  | some raw =>
    match ingest (c.policy around.fresh) Strategy.standard raw with
    | .ok i => .ok i.document
    | .error e => .error (.ingest e)

/-- The history in its directory. -/
def historyOf (c : Config) (files : Files) : History FileStore :=
  History.ofStore ⟨c.historyDirectory, files⟩ c.historyLimit

/-- A store's result as one of a command. -/
def stored {α : Type} : Except StorageError α → Except CommandFailure α
  | .ok a => .ok a
  | .error e => .error (.storage e)

/-- A session's result as one of a command. -/
def done {α : Type} : Except SessionError α → Except CommandFailure α
  | .ok a => .ok a
  | .error e => .error (.session e)

/-- The session that takes up the history. -/
def openSession (c : Config) (around : Surroundings) (files : Files) :
    Except CommandFailure (Session FileStore) :=
  stored (Session.resume (c.policy around.fresh) Strategy.standard (historyOf c files))

/-- The files behind a session. -/
def filesOf (s : Session FileStore) : Files :=
  s.history.store.files

/-- How a document came about, in a note. -/
def originText : Origin → String
  | .validated => "Validated"
  | .converted strategy => "Converted \x7b strategy: " ++ Chars.quotedVisibly strategy ++ " \x7d"

/-- The title of a page. -/
def pageTitle : String := "UIForge preview"

/-- A text filled up with blanks to nine characters. -/
def tagColumn (tag : SourceTag) : String :=
  let word := Choices.word tag
  word ++ String.ofList (List.replicate (9 - word.length) ' ')

/-- A record in one line. -/
def recordLine (r : HistoryRecord) : String :=
  r.id ++ "  " ++ r.createdAt.secondsText ++ "  " ++ tagColumn r.sourceTag ++ "  " ++
    r.summary.getD "" ++ "\n"

/-- A text on a line of its own, if there is one. -/
def line (text : Option String) : String :=
  match text with
  | some text => text ++ "\n"
  | none => ""

/-- A command carried out. -/
def execute (c : Config) (around : Surroundings) (files : Files) : Command → CommandResult
  | .render file page => do
    let document ← ingestFile c around files file
    let drawn := Element.ofDocument document none
    return (.printed ((if page then drawn.page pageTitle else drawn.html) ++ "\n"), files)
  | .report file => do
    let document ← ingestFile c around files file
    let report := AccessibilityReport.ofDocument document
    return (.printed (report.markdown around.stamp.time), files)
  | .load file sample => do
    let session ← openSession c around files
    let text ← readFile files file
    let (result, session) :=
      session.loadText around.stamp (if sample then .sample else .upload) text
    let (origin, revision) ← done result
    return (.noted "" ("loaded " ++ file ++ " as " ++ revision.record.id ++ " (" ++
      originText origin ++ ")\n"), filesOf session)
  | .chat instruction => do
    let session ← openSession c around files
    let (result, session) := session.chat around.assist around.stamp instruction
    let revision ← done result
    return (.noted (revision.document.pretty ++ "\n") (line revision.record.summary),
      filesOf session)
  | .generate => do
    let session ← openSession c around files
    let (result, session) := session.generate around.generate around.stamp
    let revision ← done result
    return (.noted (line revision.record.generatedCode) (line revision.record.qaText),
      filesOf session)
  | .listHistory => do
    let records ← stored (historyOf c files).list
    return (.printed (String.join (records.map recordLine)), files)
  | .deleteRecord id => do
    let (removed, history) ← stored ((historyOf c files).delete id)
    if removed then return (.printed "", history.store.files) else .error (.noRecord id)
  | .restoreRecord id => do
    let session ← openSession c around files
    let (result, session) := session.restore around.stamp id
    let _ ← done result
    return (.printed (session.draw.html ++ "\n"), filesOf session)

/-- The version of the program. -/
def versionLine : String := "uiforge 0.1.0\n"

/-- What is said where the arguments make no command. -/
def misuseNote : String :=
  "error: the arguments make no command\n\nFor more information, try '--help'.\n"

/-- The files that a failing command leaves: those before, except that the directory of the
history may have been made for a record that could not be written. -/
def filesAfter (failure : CommandFailure) (c : Config) (files : Files) : Files :=
  let store := (historyOf c files).store
  match failure.storageError?, KeyValueStore.load store History.key with
  | some (.io _), .ok _ => store.prepared.files
  | _, _ => files

/-- What the arguments ask for, done. -/
def run (around : Surroundings) (files : Files) (arguments : List String) : Outcome × Files :=
  match Invocation.ofArguments arguments with
  | .help text => (.printed text, files)
  | .version => (.printed versionLine, files)
  | .misuse => (⟨2, "", misuseNote⟩, files)
  | .run command =>
    let c := config around files
    match command.execute c around files with
    | .ok result => result
    | .error failure => (failure.outcome, filesAfter failure c files)

end Command

end Wireframe
