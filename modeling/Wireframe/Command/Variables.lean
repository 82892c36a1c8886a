import Wireframe.Chars.Alphanumeric
import Wireframe.Chars.Blank

/-!
# Files of variables

A file of variables has one `NAME=value` a line, behind `export` if one likes. Blank lines and
lines that begin with a number sign do not count, nor does what follows a number sign behind a
blank. A value may stand in quotes and then go over several lines. Outside single quotes a
backslash escapes, and a dollar sign puts in the value of another variable, whose name is as many
letters and digits as follow or stands in braces.

Variables that are set already keep their values. The first line that cannot be read ends the
file; what was read before stays.
-/

namespace Wireframe

/-- Variables with their values, the newest first. -/
abbrev Variables := List (String × String)

namespace Variables

/-- The value of a variable. -/
def value? (vars : Variables) (name : String) : Option String :=
  List.lookup name vars

/-- A variable set, unless it is set already. -/
def define (vars : Variables) (name value : String) : Variables :=
  if (vars.value? name).isSome then vars else (name, value) :: vars

/-! ## Lines -/

/-- Where in a line the reader is, as far as the end of the line depends on it. -/
inductive LineState where
  | plain
  | blank
  | escape
  | single
  | singleEscape
  | double
  | doubleEscape
  | comment
deriving DecidableEq

/-- The state behind one more character. -/
def LineState.next (state : LineState) (c : Char) : LineState :=
  let opened : LineState :=
    if c = '\\' then .escape else if c = '"' then .double else if c = '\'' then .single else .plain
  match state with
  | .plain => if Chars.isBlank c ∧ c ≠ '\n' ∧ c ≠ '\r' then .blank else opened
  | .blank => if c = '#' then .comment else opened
  | .escape => .plain
  | .single => if c = '\\' then .singleEscape else if c = '\'' then .plain else .single
  | .singleEscape => .single
  | .double => if c = '\\' then .doubleEscape else if c = '"' then .plain else .double
  | .doubleEscape => .double
  | .comment => .comment

/-- A line so far, in reverse. -/
structure PartialLine where
  state : LineState
  done : List Char

/-- Whether the first sign of a line is a number sign. -/
def isComment (line : List Char) : Bool :=
  (Chars.trimStart line).head? = some '#'

/-- A line without its end. -/
def withoutEnd (reversed : List Char) : List Char :=
  match reversed with
  | '\n' :: '\r' :: rest => rest.reverse
  | '\n' :: rest => rest.reverse
  | other => other.reverse

/-- The lines of a text, quoted line ends inside them. A line that never ends is none. -/
def lines (current : PartialLine) : List Char → List (Option (List Char))
  | [] =>
    if current.done = [] then []
    else if isComment current.done.reverse ∨ current.state = .comment ∨ current.state = .plain then
      [some current.done.reverse]
    else [none]
  | c :: rest =>
    let state := if current.state = .comment then .comment else current.state.next c
    let done := if state = .comment then current.done else c :: current.done
    if c = '\n' then
      if state = .plain ∨ state = .comment ∨ isComment done.reverse then
        some (withoutEnd done) :: lines ⟨.plain, []⟩ rest
      else lines ⟨state, done⟩ rest
    else lines ⟨state, done⟩ rest

/-! ## Values -/

/-- What the reader of a value is in the middle of. -/
inductive ValueState where
  | bare
  | single
  | double
  /-- Behind a backslash, inside double quotes or outside. -/
  | escape (quoted : Bool)
  /-- Behind a dollar sign: the name so far in reverse. -/
  | name (quoted : Bool) (letters : List Char)
  /-- Behind a dollar sign and a brace. -/
  | bracedName (quoted : Bool) (letters : List Char)
  /-- Behind the value. -/
  | behind
  | comment
deriving DecidableEq

/-- The state inside double quotes or outside. -/
def ValueState.within (quoted : Bool) : ValueState :=
  if quoted then .double else .bare

/-- The value of a named variable in reverse, before what is read already. -/
def spliced (vars : Variables) (letters done : List Char) : List Char :=
  ((vars.value? (String.ofList letters.reverse)).getD "").toList.reverse ++ done

/-- The state and the value in reverse behind one more character. -/
def valueStep? (vars : Variables) (state : ValueState) (done : List Char) (c : Char) :
    Option (ValueState × List Char) :=
  match state with
  | .comment => some (.comment, done)
  | .behind =>
    if c = ' ' ∨ c = '\t' then some (.behind, done)
    else if c = '#' then some (.comment, done)
    else none
  | .escape quoted =>
    if c = '\\' ∨ c = '\'' ∨ c = '"' ∨ c = '$' ∨ c = ' ' then some (.within quoted, c :: done)
    else if c = 'n' then some (.within quoted, '\n' :: done)
    else none
  | .single => some (if c = '\'' then (.bare, done) else (.single, c :: done))
  | .name quoted letters =>
    if Chars.isAlphanumeric c then some (.name quoted (c :: letters), done)
    else if c = '\x7b' ∧ letters = [] then some (.bracedName quoted [], done)
    else
      let done := spliced vars letters done
      if c = '$' then some (.name quoted [], done) else some (.within quoted, c :: done)
  | .bracedName quoted letters =>
    if c = '\x7d' then some (.within quoted, spliced vars letters done)
    else some (.bracedName quoted (c :: letters), done)
  | .double =>
    if c = '$' then some (.name true [], done)
    else if c = '"' then some (.bare, done)
    else if c = '\\' then some (.escape true, done)
    else some (.double, c :: done)
  | .bare =>
    if c = '$' then some (.name false [], done)
    else if c = '\'' then some (.single, done)
    else if c = '"' then some (.double, done)
    else if c = '\\' then some (.escape false, done)
    else if c = ' ' ∨ c = '\t' then some (.behind, done)
    else some (.bare, c :: done)

/-- The value that a text stands for. -/
def readValue? (vars : Variables) (state : ValueState) (done : List Char) :
    List Char → Option String
  | [] =>
    match state with
    | .bare | .behind | .comment | .escape false => some (String.ofList done.reverse)
    | .name false letters => some (String.ofList (spliced vars letters done).reverse)
    | _ => none
  | c :: rest =>
    match valueStep? vars state done c with
    | some (state, done) => readValue? vars state done rest
    | none => none

/-! ## Definitions -/

/-- A name and what follows it, blanks left out. -/
def name? (cs : List Char) : Option (String × List Char) :=
  let isNameEnd (c : Char) : Bool := !(c.isAlphanum || c = '_' || c = '.')
  if cs.head?.any fun c => c.isAlpha || c = '_' then
    let letters := cs.takeWhile fun c => !isNameEnd c
    some (String.ofList letters, Chars.trimStart (cs.drop letters.length))
  else none

/-- What follows an equal sign. -/
def afterEqual? : List Char → Option (List Char)
  | '=' :: rest => some (Chars.trimStart rest)
  | _ => none

/-- The name that a line defines and the text of its value. -/
def definition? (line : List Char) : Option (String × List Char) := do
  let (first, rest) ← name? line
  match first, afterEqual? rest with
  | "export", none => do
    let (name, rest) ← name? rest
    let text ← afterEqual? rest
    some (name, text)
  | name, some text => some (name, text)
  | _, none => none

/-- The variables behind one more line, none if the line cannot be read. -/
def readLine? (vars : Variables) (line : List Char) : Option Variables :=
  let line := Chars.trimChars line
  if line = [] ∨ isComment line then some vars
  else do
    let (name, text) ← definition? line
    let value ←
      if text = [] ∨ isComment text then some "" else readValue? vars .bare [] text
    some (vars.define name value)

/-- The variables behind lines, up to the first that cannot be read. -/
def readLines (vars : Variables) : List (Option (List Char)) → Variables
  | some line :: rest =>
    match readLine? vars line with
    | some vars => readLines vars rest
    | none => vars
  | _ => vars

/-- The variables behind a file of variables. A mark of byte order in front does not count. -/
def readFile (vars : Variables) (text : String) : Variables :=
  let cs := match text.toList with
    | '\uFEFF' :: rest => rest
    | other => other
  vars.readLines (lines ⟨.plain, []⟩ cs)

end Variables

end Wireframe
