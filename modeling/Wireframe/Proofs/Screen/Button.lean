import Mathlib.Order.MinMax
import Mathlib.Order.Nat
import Wireframe.Screen.Button

/-!
# Busy windows

A button is pressed, the clock advances and due timers fire, in whatever order. Beside the button a
watch keeps the clock, the timers that were set and a log of what the button did.

The log of every run before a teardown is a row of windows (`WatchedButton.Windows`) : each begins
with an accepted press and ends with a return, and a last one is open exactly while the button is
busy. There is one timer while a window is open and none otherwise, and it is due when the debounce
has passed since the press that opened the window. `WatchedButton.presses_open_windows` says what
follows for presses, for the clock and for a button that is torn down.

The timer waits for `LiveButton.lastInstant` at most. A window that is opened shortly before is
closed too early (`WatchedButton.closes_early_at_last_instant`).
-/

namespace Wireframe

/-- What can happen to a button. -/
inductive ButtonEvent where
  | press
  | advance (ms : Nat)
  /-- The timers that are due fire. -/
  | fire
deriving DecidableEq

/-- What a button does, and when. -/
inductive ButtonNote where
  | accepted (instant : Nat)
  | returned (instant : Nat)
deriving DecidableEq

/-- A button with a clock. -/
structure WatchedButton where
  button : LiveButton
  now : Nat
  /-- When the timers are due that were set and neither fired nor were cancelled. -/
  timers : List Nat
  log : List ButtonNote

namespace WatchedButton

/-- A button that was not pressed yet. -/
def fresh (debounce start : Nat) : WatchedButton :=
  ⟨.fresh debounce, start, [], []⟩

/-- The state after an event. -/
def step (w : WatchedButton) : ButtonEvent → WatchedButton
  | .press =>
    match w.button.activate? (some w.now) with
    | some (.accepted, b) =>
      { w with
        button := b
        timers := w.timers ++ [w.now + b.debounce]
        log := w.log ++ [.accepted w.now] }
    | some (.dropped, b) => { w with button := b }
    | none => w
  | .advance ms => { w with now := w.now + ms }
  | .fire =>
    let b := w.button.elapse w.now
    { w with
      button := b
      timers := w.timers.filter fun due => w.now < min due LiveButton.lastInstant
      log := if w.button.state = .busy ∧ b.state = .idle then w.log ++ [.returned w.now]
        else w.log }

/-- The state after a list of events. -/
def run (w : WatchedButton) (events : List ButtonEvent) : WatchedButton :=
  events.foldl step w

/-- The button is torn down, and its timer cancelled. -/
def teardown (w : WatchedButton) : WatchedButton :=
  { w with
    button := w.button.teardown
    timers := w.timers.filter fun due => w.button.deadline ≠ some due }

/-- The log of windows that are closed and of one that is open. -/
def notes (closed : List (Nat × Nat)) (opened : Option Nat) : List ButtonNote :=
  closed.flatMap (fun p => [.accepted p.1, .returned p.2]) ++ (opened.map .accepted).toList

/-- What a button did so far : windows that it closed, and one that is open while it is busy. -/
structure Windows (debounce : Nat) (w : WatchedButton) (closed : List (Nat × Nat))
    (opened : Option Nat) : Prop where
  button_eq : w.button =
    ⟨debounce, if opened.isSome then .busy else .idle, opened.map (· + debounce)⟩
  timers_eq : w.timers = (opened.map (· + debounce)).toList
  log_eq : w.log = notes closed opened
  waited : ∀ p ∈ closed, min (p.1 + debounce) LiveButton.lastInstant ≤ p.2 ∧ p.2 ≤ w.now
  apart : (closed.map Prod.fst ++ opened.toList).Pairwise fun t u =>
    min (t + debounce) LiveButton.lastInstant ≤ u

variable {debounce : Nat} {w : WatchedButton} {closed : List (Nat × Nat)} {opened : Option Nat}

theorem windows_fresh (debounce start : Nat) : Windows debounce (fresh debounce start) [] none :=
  ⟨rfl, rfl, rfl, by simp, by simp⟩

/-! ## Events -/

/-- A press is dropped while a window is open. -/
theorem Windows.press_eq_self {t : Nat} (windows : Windows debounce w closed (some t)) :
    w.step .press = w := by
  have dropped : w.button.activate? (some w.now) = some (.dropped, w.button) := by
    rw [windows.button_eq]
    rfl
  rw [step, dropped]

/-- A press opens a window if none is open. -/
theorem Windows.press (windows : Windows debounce w closed none) :
    Windows debounce (w.step .press) closed (some w.now) := by
  have accepted : w.button.activate? (some w.now) =
      some (.accepted, ⟨debounce, .busy, some (w.now + debounce)⟩) := by
    rw [windows.button_eq]
    rfl
  rw [step, accepted]
  refine ⟨rfl, by simp [windows.timers_eq], by simp [windows.log_eq, notes], windows.waited, ?_⟩
  refine List.pairwise_append.2 ⟨by simpa using windows.apart, by simp, ?_⟩
  intro t mem now at_now
  obtain rfl := List.mem_singleton.1 at_now
  obtain ⟨p, p_mem, rfl⟩ := List.mem_map.1 mem
  exact (windows.waited p p_mem).1.trans (windows.waited p p_mem).2

theorem Windows.advance (windows : Windows debounce w closed opened) (ms : Nat) :
    Windows debounce (w.step (.advance ms)) closed opened :=
  { windows with
    waited := fun p mem =>
      ⟨(windows.waited p mem).1, (windows.waited p mem).2.trans (Nat.le_add_right w.now ms)⟩ }

/-- No timer fires if none is due. -/
theorem Windows.fire_eq_self (windows : Windows debounce w closed opened)
    (early : ∀ t ∈ opened, w.now < min (t + debounce) LiveButton.lastInstant) :
    w.step .fire = w := by
  have same : w.button.elapse w.now = w.button := by
    rw [windows.button_eq]
    cases opened with
    | none => rfl
    | some t => exact if_neg (Nat.not_le_of_gt (early t rfl))
  have all : w.timers.filter (fun due => w.now < min due LiveButton.lastInstant) = w.timers := by
    rw [List.filter_eq_self, windows.timers_eq]
    cases opened with
    | none => simp
    | some t => simpa using early t rfl
  have quiet : ¬ (w.button.state = .busy ∧ w.button.state = .idle) := by
    rintro ⟨busy, idle⟩
    cases busy.symm.trans idle
  simp only [step, same, all, if_neg quiet]

/-- The window is closed when its timer fires. -/
theorem Windows.fire {t : Nat} (windows : Windows debounce w closed (some t))
    (due : min (t + debounce) LiveButton.lastInstant ≤ w.now) :
    Windows debounce (w.step .fire) (closed ++ [(t, w.now)]) none := by
  have button_eq : w.button.elapse w.now = .fresh debounce := by
    rw [windows.button_eq]
    exact if_pos due
  have busy : w.button.state = .busy := by rw [windows.button_eq]; rfl
  refine ⟨button_eq, ?_, ?_, ?_, ?_⟩
  · simp only [step, windows.timers_eq]
    refine List.filter_eq_nil_iff.2 fun other mem early => ?_
    obtain rfl : other = t + debounce := List.mem_singleton.1 mem
    exact Nat.not_lt_of_ge due (of_decide_eq_true early)
  · simp only [step, button_eq, busy, windows.log_eq]
    simp [LiveButton.fresh, notes]
  · intro p mem
    obtain old | last := List.mem_append.1 mem
    · exact windows.waited p old
    · obtain rfl := List.mem_singleton.1 last
      exact ⟨due, le_rfl⟩
  · simpa using windows.apart

/-- A window is not closed before its timer is due. -/
theorem Windows.le_of_returns {t : Nat} (windows : Windows debounce w closed (some t))
    {e : ButtonEvent} (returns : (w.step e).button.state = .idle) :
    min (t + debounce) LiveButton.lastInstant ≤ w.now := by
  by_contra early
  have busy : w.button.state = .busy := by rw [windows.button_eq]; rfl
  have same : (w.step e).button = w.button := by
    cases e with
    | press => rw [windows.press_eq_self]
    | advance ms => rfl
    | fire =>
      rw [windows.fire_eq_self]
      rintro _ ⟨⟩
      exact Nat.not_le.1 early
  rw [same] at returns
  cases busy.symm.trans returns

/-- A window is closed once the clock has reached its end and due timers have fired. -/
theorem Windows.returns {t ms : Nat} (windows : Windows debounce w closed (some t))
    (passed : t + debounce ≤ w.now + ms) :
    ((w.step (.advance ms)).step .fire).button.state = .idle := by
  rw [((windows.advance ms).fire ((min_le_left _ _).trans passed)).button_eq]
  rfl

/-- Every event leaves a row of windows. -/
theorem Windows.step (windows : Windows debounce w closed opened) (e : ButtonEvent) :
    ∃ closed' opened', Windows debounce (w.step e) closed' opened' := by
  cases e with
  | press =>
    cases opened with
    | none => exact ⟨_, _, windows.press⟩
    | some t => exact ⟨_, _, windows.press_eq_self.symm ▸ windows⟩
  | advance ms => exact ⟨_, _, windows.advance ms⟩
  | fire =>
    by_cases early : ∀ t ∈ opened, w.now < min (t + debounce) LiveButton.lastInstant
    · exact ⟨_, _, (windows.fire_eq_self early).symm ▸ windows⟩
    · simp only [not_forall, Nat.not_lt] at early
      obtain ⟨t, rfl, due⟩ := early
      exact ⟨_, _, windows.fire due⟩

/-- Every run leaves a row of windows. -/
theorem Windows.run : ∀ (events : List ButtonEvent) {w : WatchedButton} {closed : List (Nat × Nat)}
    {opened : Option Nat}, Windows debounce w closed opened →
      ∃ closed' opened', Windows debounce (w.run events) closed' opened'
  | [], _, _, _, windows => ⟨_, _, windows⟩
  | e :: rest, _, _, _, windows => by
    obtain ⟨closed, opened, next⟩ := windows.step e
    exact Windows.run rest next

/-! ## Teardown -/

/-- A button without a timer is left alone by the clock. -/
theorem step_of_no_timer {e : ButtonEvent} (none_due : w.button.deadline = none)
    (unpressed : e ≠ .press ∨ w.button.state = .busy) : (w.step e).button = w.button := by
  cases e with
  | press =>
    obtain absurd_press | busy := unpressed
    · exact absurd rfl absurd_press
    · simp [step, LiveButton.activate?, busy]
  | advance ms => rfl
  | fire => simp [step, LiveButton.elapse, none_due]

theorem run_of_no_timer : ∀ {events : List ButtonEvent} {w : WatchedButton},
    w.button.deadline = none → (.press ∉ events ∨ w.button.state = .busy) →
      (w.run events).button = w.button
  | [], _, _, _ => rfl
  | e :: rest, w, none_due, unpressed => by
    have same : (w.step e).button = w.button :=
      step_of_no_timer none_due (unpressed.imp_left fun absent => by
        rintro rfl
        exact absent (.head _))
    have rest_same : ((w.step e).run rest).button = (w.step e).button :=
      run_of_no_timer (by rw [same, none_due])
        (by rw [same]; exact unpressed.imp_left fun absent mem => absent (.tail _ mem))
    exact rest_same.trans same

/-- A teardown leaves no timer, neither to the button nor beside it. -/
theorem Windows.teardown (windows : Windows debounce w closed opened) :
    w.teardown.button.deadline = none ∧ w.teardown.timers = [] := by
  refine ⟨rfl, ?_⟩
  simp only [WatchedButton.teardown, windows.timers_eq, windows.button_eq]
  cases opened <;> simp

/-! ## Runs -/

/-- In every run before a teardown the log of a button is a row of windows, each from an accepted
press to a return, the last one open exactly while the button is busy. There is one timer while the
button is busy and none otherwise, due when the debounce has passed since the last accepted press. A
press is accepted exactly if the button is idle, and changes nothing otherwise. The button does not
return before its timer is due, or the last instant of timers has come, and returns when due timers
fire, so that accepted presses are the debounce apart, unless the later one comes at that instant or
after. Once the button is torn down, neither the clock nor timers change it, and no press does if it
was busy. -/
theorem presses_open_windows (debounce start : Nat) (events : List ButtonEvent) :
    let w := (fresh debounce start).run events
    (∃ closed opened, w.log = notes closed opened ∧
      (w.button.state = .busy ↔ opened.isSome = true) ∧
      (w.button.state = .busy ↔ w.timers.length = 1) ∧
      w.timers = (opened.map (· + debounce)).toList ∧ w.button.deadline = w.timers.head? ∧
      (∀ p ∈ closed, min (p.1 + debounce) LiveButton.lastInstant ≤ p.2) ∧
      (closed.map Prod.fst ++ opened.toList).Pairwise fun t u =>
        t + debounce ≤ u ∨ LiveButton.lastInstant ≤ u) ∧
    (∃ outcome b, w.button.activate? (some w.now) = some (outcome, b) ∧
      (outcome = .accepted ↔ w.button.state = .idle) ∧ (outcome = .dropped → b = w.button)) ∧
    (∀ due ∈ w.timers,
      (∀ e, (w.step e).button.state = .idle → min due LiveButton.lastInstant ≤ w.now) ∧
      ∀ ms, due ≤ w.now + ms → ((w.step (.advance ms)).step .fire).button.state = .idle) ∧
    w.teardown.timers = [] ∧ ∀ later, .press ∉ later ∨ w.button.state = .busy →
      (w.teardown.run later).button.state = w.button.state := by
  intro w
  obtain ⟨closed, opened, windows⟩ : ∃ closed opened, Windows debounce w closed opened :=
    Windows.run events (windows_fresh debounce start)
  refine ⟨⟨closed, opened, windows.log_eq, ?_, ?_, windows.timers_eq, ?_, ?_, ?_⟩, ?_, ?_,
    windows.teardown.2, ?_⟩
  · rw [windows.button_eq]
    cases opened <;> simp
  · rw [windows.button_eq, windows.timers_eq]
    cases opened <;> simp
  · rw [windows.button_eq, windows.timers_eq]
    cases opened <;> simp
  · exact fun p mem => (windows.waited p mem).1
  · exact windows.apart.imp fun spaced => min_le_iff.1 spaced
  · rw [windows.button_eq]
    cases opened with
    | none => exact ⟨.accepted, _, rfl, by simp, nofun⟩
    | some t => exact ⟨.dropped, _, rfl, by simp, fun _ => rfl⟩
  · intro due mem
    obtain ⟨t, rfl, rfl⟩ : ∃ t, opened = some t ∧ due = t + debounce := by
      rw [windows.timers_eq, Option.mem_toList, Option.map_eq_some_iff] at mem
      obtain ⟨t, opened_eq, due_eq⟩ := mem
      exact ⟨t, opened_eq, due_eq.symm⟩
    exact ⟨fun e => windows.le_of_returns, fun ms => windows.returns⟩
  · intro later unpressed
    rw [run_of_no_timer windows.teardown.1 unpressed]
    rfl

/-- A button that is pressed shortly before the last instant of timers returns before the debounce
has passed, and then takes another press. -/
theorem closes_early_at_last_instant :
    let w := (fresh 5 0).run [.advance 18446744073709551609, .press, .advance 4]
    let v := (w.step .fire).step .press
    w.timers = [18446744073709551614] ∧ w.now = 18446744073709551613 ∧
      w.button.state = .busy ∧ (w.step .fire).button.state = .idle ∧
      v.log = [.accepted 18446744073709551609, .returned 18446744073709551613,
        .accepted 18446744073709551613] := by
  decide

end WatchedButton

end Wireframe
