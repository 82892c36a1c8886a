import Wireframe.Screen.Button
import Wireframe.Screen.Key

/-!
# Mounted screens

While a document is shown, its inputs, buttons and forms are alive: inputs hold what was typed
and whether it is revealed, buttons may be busy, forms swallow their submission. A `Mount` holds
one widget for each such node, by the node's key and in pre-order. An operation on a key that
has no widget, or one of another kind, is an error and changes nothing.
-/

namespace Wireframe

/-- Whether a password is drawn masked. -/
inductive Reveal where
  | masked
  | revealed
deriving DecidableEq

/-- The other state. -/
def Reveal.toggle : Reveal → Reveal
  | masked => revealed
  | revealed => masked

/-- An input on a screen. -/
structure LiveInput where
  kind : InputKind
  hasControl : Bool
  value : String
  revealState : Reveal
deriving DecidableEq

namespace LiveInput

/-- An empty, masked input. -/
def fresh (i : Input) : LiveInput :=
  ⟨i.kind, i.hasRevealControl, "", .masked⟩

/-- The state of the reveal control, if there is one. -/
def reveal (i : LiveInput) : Option Reveal :=
  if i.hasControl then some i.revealState else none

/-- Whether the value is drawn masked. -/
def isMasked (i : LiveInput) : Bool :=
  i.kind = .password && i.revealState = .masked

end LiveInput

/-- Something alive on a screen. -/
inductive Widget where
  | button (live : LiveButton)
  | input (live : LiveInput)
  | form
deriving DecidableEq

/-- The widget of a node, none for nodes that only show something. -/
def Widget.ofNode? : Node → Option Widget
  | .leaf (.button b) => some (.button (.fresh b.debounceMs.toNat))
  | .leaf (.input i) => some (.input (.fresh i))
  | .group (.form _) _ => some .form
  | _ => none

/-- A widget when its timer has fired, if it has one and it was due. -/
def Widget.elapse (now : Nat) : Widget → Widget
  | button live => button (live.elapse now)
  | input live => input live
  | form => form

/-- Why a widget refuses an operation. -/
inductive WidgetError where
  | notFound (key : Key)
  | wrongKind (key : Key) (expected : String)
  | noRevealControl (key : Key)
  /-- A timer is needed and there is no clock. -/
  | noClock
deriving DecidableEq

/-- The wording of an error. -/
def WidgetError.message : WidgetError → String
  | notFound key => "No widget mounted at " ++ key.text
  | wrongKind key expected => "Widget at " ++ key.text ++ " is not a " ++ expected
  | noRevealControl key => "Input at " ++ key.text ++ " has no reveal control"
  | noClock => "Button timers need a Tokio runtime"

/-- The widgets of a shown document. -/
structure Mount where
  widgets : List (Key × Widget)
deriving DecidableEq

namespace Mount

/-- The widget at a key. -/
def find? (m : Mount) (key : Key) : Option Widget :=
  List.lookup key m.widgets

/-- The widget at a key replaced. -/
def set (m : Mount) (key : Key) (widget : Widget) : Mount :=
  ⟨m.widgets.map fun entry => if entry.1 = key then (key, widget) else entry⟩

/-- Whether a key has a widget. -/
def contains (m : Mount) (key : Key) : Bool :=
  (m.find? key).isSome

/-- A widget put at a key, in place of the one that is there. -/
def insert (m : Mount) (key : Key) (widget : Widget) : Mount :=
  if m.contains key then m.set key widget else ⟨m.widgets ++ [(key, widget)]⟩

/-- A fresh widget put at the key of a node, if it has one. -/
def plant (m : Mount) (key : Key) (node : Node) : Mount :=
  match Widget.ofNode? node with
  | some widget => m.insert key widget
  | none => m

/-- Fresh widgets for every node of a document that has one. -/
def ofDocument (d : Document) : Mount :=
  d.root.walk plant ⟨[]⟩ .root

/-- The button at a key. -/
def button (m : Mount) (key : Key) : Except WidgetError LiveButton :=
  match m.find? key with
  | none => .error (.notFound key)
  | some (.button live) => .ok live
  | some _ => .error (.wrongKind key "button")

/-- The input at a key. -/
def input (m : Mount) (key : Key) : Except WidgetError LiveInput :=
  match m.find? key with
  | none => .error (.notFound key)
  | some (.input live) => .ok live
  | some _ => .error (.wrongKind key "input")

/-- The form at a key takes a submission, and nothing leaves it. -/
def submit (m : Mount) (key : Key) : Except WidgetError Unit :=
  match m.find? key with
  | none => .error (.notFound key)
  | some .form => .ok ()
  | some _ => .error (.wrongKind key "form")

/-- The state of the button at a key. -/
def buttonState (m : Mount) (key : Key) : Except WidgetError ButtonState :=
  (m.button key).map LiveButton.state

/-- The text in the input at a key. -/
def inputValue (m : Mount) (key : Key) : Except WidgetError String :=
  (m.input key).map LiveInput.value

/-- A press of the button at a key. -/
def activate (m : Mount) (clock : Option Nat) (key : Key) :
    Except WidgetError (Activation × Mount) := do
  let live ← m.button key
  match live.activate? clock with
  | none => .error .noClock
  | some (outcome, next) => .ok (outcome, m.set key (.button next))

/-- Text typed into the input at a key. -/
def setInput (m : Mount) (key : Key) (value : String) : Except WidgetError Mount := do
  let live ← m.input key
  return m.set key (.input { live with value := value })

/-- The reveal control of the input at a key is used. -/
def toggleReveal (m : Mount) (key : Key) : Except WidgetError (Reveal × Mount) := do
  let live ← m.input key
  if live.hasControl then
    let next := live.revealState.toggle
    return (next, m.set key (.input { live with revealState := next }))
  else .error (.noRevealControl key)

/-- The timer at a key fires if it is due. -/
def fire (m : Mount) (now : Nat) (key : Key) : Mount :=
  ⟨m.widgets.map fun entry => if entry.1 = key then (key, entry.2.elapse now) else entry⟩

/-- Every timer that is due fires. -/
def elapse (m : Mount) (now : Nat) : Mount :=
  ⟨m.widgets.map fun entry => (entry.1, entry.2.elapse now)⟩

/-- How many buttons have a timer. -/
def pending (m : Mount) : Nat :=
  m.widgets.countP fun
    | (_, .button live) => live.isPending
    | _ => false

/-- Timers cancelled and widgets dropped. -/
def teardown (_ : Mount) : Mount :=
  ⟨[]⟩

end Mount

end Wireframe
