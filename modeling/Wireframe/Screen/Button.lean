/-!
# Debounced buttons

A pressed button is busy until its timer fires; presses in between are dropped. Instants and
delays are milliseconds. The timer is set by the press that was accepted and is due at the
instant of that press plus the delay, so a button has at most one timer. A torn-down button
keeps its state and never changes again, for its timer is gone. Timers are watched by a counter
of 64 bits, so all of them have fired when the last instant it can show has come.
-/

namespace Wireframe

/-- Whether a button takes presses. -/
inductive ButtonState where
  | idle
  | busy
deriving DecidableEq

/-- What became of a press. -/
inductive Activation where
  | accepted
  /-- It came while the button was busy. -/
  | dropped
deriving DecidableEq

/-- A button on a screen. -/
structure LiveButton where
  /-- How long it stays busy. -/
  debounce : Nat
  state : ButtonState
  /-- When its timer is due, if it has one. -/
  deadline : Option Nat
deriving DecidableEq

namespace LiveButton

/-- A button that was not pressed yet. -/
def fresh (debounce : Nat) : LiveButton :=
  ⟨debounce, .idle, none⟩

/-- A press at an instant. Without a clock no timer can be set, and a press that would need
one is refused. -/
def activate? (clock : Option Nat) (b : LiveButton) : Option (Activation × LiveButton) :=
  match b.state with
  | .busy => some (.dropped, b)
  | .idle => clock.map fun now =>
    (.accepted, { b with state := .busy, deadline := some (now + b.debounce) })

/-- The last instant that a timer waits for. The three counts above it that fit into 64 bits
mark timers that wait for nothing. -/
def lastInstant : Nat :=
  18446744073709551613

/-- The timer fires if it is due, at the latest at the last instant. Instants are whole
milliseconds : on a clock that is finer a timer waits for the first whole millisecond that is not
before its deadline, as timers are looked at once a millisecond. -/
def elapse (now : Nat) (b : LiveButton) : LiveButton :=
  match b.deadline with
  | some due =>
    if min due lastInstant ≤ now then { b with state := .idle, deadline := none } else b
  | none => b

/-- The timer is cancelled. -/
def teardown (b : LiveButton) : LiveButton :=
  { b with deadline := none }

/-- Whether a timer is set. -/
def isPending (b : LiveButton) : Bool :=
  b.deadline.isSome

end LiveButton

end Wireframe
