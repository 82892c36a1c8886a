/-!
# Arguments of commands

The commands form a small tree: some names lead to a command, some to a menu of further names.
A command takes at most one operand and one switch, in any order; two hyphens end the switches.
Help may be asked for everywhere. Arguments are read from left to right, and the first that
asks for help or does not fit decides.
-/

namespace Wireframe

/-- What the program can be told to do. -/
inductive Command where
  | render (file : String) (page : Bool)
  | report (file : String)
  | load (file : String) (sample : Bool)
  | chat (instruction : String)
  | generate
  | listHistory
  | deleteRecord (id : String)
  | restoreRecord (id : String)
deriving DecidableEq

/-- An operand that a command needs. -/
structure Operand where
  name : String
  help : String
  mayBeEmpty : Bool

/-- A switch that a command knows. -/
structure Switch where
  name : String
  help : String

/-- What a name in the tree of commands stands for. -/
inductive EntryKind where
  | menu
  | command (operand : Option Operand) (switch : Option Switch) (make : String → Bool → Command)

/-- A name in the tree of commands, with the names that lead to it. -/
structure Entry where
  path : List String
  about : String
  kind : EntryKind

/-- What the arguments ask for. -/
inductive Invocation where
  | run (command : Command)
  | help (text : String)
  | version
  | misuse
deriving DecidableEq

namespace Invocation

/-- A file to read. -/
def fileOperand : Operand :=
  ⟨"FILE", "Input JSON", false⟩

/-- The id of a record. -/
def idOperand : Operand :=
  ⟨"ID", "", true⟩

/-- All names in the order in which menus list them. -/
def entries : List Entry := [
  ⟨["render"], "Validate (or convert) a JSON file and print its HTML",
    .command (some fileOperand)
      (some ⟨"--page", "Emit a standalone HTML page instead of a fragment"⟩) .render⟩,
  ⟨["qa"], "Print a QA report for a JSON file as Markdown",
    .command (some fileOperand) none fun file _ => .report file⟩,
  ⟨["load"], "Make a JSON file the current document and record it in history",
    .command (some fileOperand)
      (some ⟨"--sample", "Record as the built-in sample instead of an upload"⟩) .load⟩,
  ⟨["chat"], "Ask the generation service to edit the current document",
    .command (some ⟨"INSTRUCTION", "Instruction in natural language", true⟩) none
      fun instruction _ => .chat instruction⟩,
  ⟨["generate"], "Hybrid generation from the current document",
    .command none none fun _ _ => .generate⟩,
  ⟨["history"], "Inspect or restore history", .menu⟩,
  ⟨["history", "list"], "List records, most recent first",
    .command none none fun _ _ => .listHistory⟩,
  ⟨["history", "delete"], "Delete one record",
    .command (some idOperand) none fun id _ => .deleteRecord id⟩,
  ⟨["history", "restore"], "Make a record current again and print its HTML",
    .command (some idOperand) none fun id _ => .restoreRecord id⟩]

/-- The entry at a path. -/
def entry? (path : List String) : Option Entry :=
  entries.find? fun e => e.path = path

/-! ## Help -/

/-- The name of the program. -/
def program : String := "uiforge"

/-- Lines of two columns, the second starting two blanks behind the widest first. -/
def columns (rows : List (String × String)) : String :=
  let width := (rows.map fun row => row.1.length).foldl max 0
  String.join <| rows.map fun (left, right) =>
    "  " ++ left ++ String.ofList (List.replicate (width + 2 - left.length) ' ') ++ right ++ "\n"

/-- How a command is called. -/
def usage (path : List String) (rest : String) : String :=
  "Usage: " ++ String.intercalate " " (program :: path) ++ rest ++ "\n"

/-- The row that says how to ask for help. -/
def helpRow : String × String :=
  ("-h, --help", "Print help")

/-- What the name `help` in every menu does. -/
def helpAbout : String :=
  "Print this message or the help of the given subcommand(s)"

/-- The help of a menu. -/
def menuHelp (path : List String) : String :=
  let below := entries.filter fun e => e.path.dropLast = path
  let rows := below.map (fun e => (e.path.getLastD "", e.about)) ++
    [("help", helpAbout)]
  let about := match entry? path with
    | some e => e.about ++ "\n\n"
    | none => ""
  let options := if path = [] then [helpRow, ("-V, --version", "Print version")] else [helpRow]
  about ++ usage path " <COMMAND>" ++ "\nCommands:\n" ++ columns rows ++ "\nOptions:\n" ++
    columns options

/-- The help of a command. -/
def commandHelp (path : List String) (about : String) (operand : Option Operand)
    (switch : Option Switch) : String :=
  let call := (if switch.isSome then " [OPTIONS]" else "") ++
    match operand with
    | some o => " <" ++ o.name ++ ">"
    | none => ""
  let arguments := match operand with
    | some o => "\nArguments:\n" ++ columns [("<" ++ o.name ++ ">", o.help)]
    | none => ""
  let options := (switch.map fun s => ("    " ++ s.name, s.help)).toList ++ [helpRow]
  about ++ "\n\n" ++ usage path call ++ arguments ++ "\nOptions:\n" ++ columns options

/-- The help of the name `help` in a menu. -/
def helpOfHelp (menu : List String) : String :=
  helpAbout ++ "\n\n" ++ usage (menu ++ ["help"]) " [COMMAND]..." ++ "\nArguments:\n" ++
    columns [("[COMMAND]...", "Print help for the subcommand(s)")]

/-- Whether a path leads to a menu. -/
def isMenu (path : List String) : Bool :=
  path = [] || match entry? path with
    | some ⟨_, _, .menu⟩ => true
    | _ => false

/-- The help for what a path leads to. -/
def helpAt (path : List String) : Invocation :=
  if isMenu path then .help (menuHelp path)
  else if path.getLast? = some "help" ∧ isMenu path.dropLast then
    .help (helpOfHelp path.dropLast)
  else match entry? path with
    | some ⟨_, about, .command operand switch _⟩ =>
      .help (commandHelp path about operand switch)
    | _ => .misuse

/-! ## Reading -/

/-- Whether an argument asks for help. -/
def asksForHelp (argument : String) : Bool :=
  argument = "--help" || "-h".toList.isPrefixOf argument.toList

/-- Whether an argument is a switch and no operand. -/
def isSwitch (argument : String) : Bool :=
  argument.toList.head? = some '-' && argument ≠ "-"

/-- The arguments of a command read so far. -/
structure Given where
  operand : Option String
  switched : Bool
  /-- Two hyphens were read. -/
  onlyOperands : Bool

/-- One more operand, if the command takes it. -/
def takeOperand? (operand : Option Operand) (given : Given) (argument : String) : Option Given :=
  match operand, given.operand with
  | some o, none =>
    if argument = "" ∧ !o.mayBeEmpty then none
    else some { given with operand := some argument }
  | _, _ => none

/-- The arguments of a command. -/
def ofCommand (path : List String) (about : String) (operand : Option Operand)
    (switch : Option Switch) (make : String → Bool → Command) (given : Given) :
    List String → Invocation
  | [] =>
    match operand, given.operand with
    | some _, none => .misuse
    | _, value => .run (make (value.getD "") given.switched)
  | argument :: rest =>
    let goOn (given : Given) := ofCommand path about operand switch make given rest
    if !given.onlyOperands && argument = "--" then goOn { given with onlyOperands := true }
    else if !given.onlyOperands && isSwitch argument then
      if asksForHelp argument then .help (commandHelp path about operand switch)
      else if (switch.any fun s => s.name = argument) && !given.switched then
        goOn { given with switched := true }
      else .misuse
    else match takeOperand? operand given argument with
      | some given => goOn given
      | none => .misuse

/-- The arguments behind a path to a menu. -/
def ofMenu (path : List String) : List String → Invocation
  | [] => .misuse
  | argument :: rest =>
    if asksForHelp argument then .help (menuHelp path)
    else if path = [] ∧ (argument = "--version" ∨ "-V".toList.isPrefixOf argument.toList) then
      .version
    else if argument = "help" then helpAt (path ++ rest)
    else match entry? (path ++ [argument]) with
      | none => .misuse
      | some ⟨path, _, .menu⟩ => ofMenu path rest
      | some ⟨path, about, .command operand switch make⟩ =>
        ofCommand path about operand switch make ⟨none, false, false⟩ rest

/-- What a list of arguments asks for. -/
def ofArguments (arguments : List String) : Invocation :=
  ofMenu [] arguments

end Invocation

end Wireframe
