import Wireframe.Proofs.Results
import Wireframe.Proofs.Screen.Keyed
import Wireframe.Screen.Element

/-!
# Live screens

On a shown screen texts are typed, reveal controls used, buttons pressed and forms submitted, in
whatever order and at whatever keys, while the clock advances and due timers fire, each for itself
(`LiveScreen.elapse_eq_run`). A live screen keeps a log of all that was not refused, the last first.

The widgets are always those of the nodes of the document, each in the state that the log gives it
(`Widget.after?`). One operation at one key changes the widget at this key only, and so the screen
is drawn as if it were freshly mounted, apart from what the log says of its inputs and buttons
(`LiveScreen.drawn_as_logged`).
-/

namespace Wireframe

/-! ## Operations -/

/-- What can happen to a shown screen. -/
inductive ScreenEvent where
  | setInput (key : Key) (text : String)
  | toggle (key : Key)
  | press (key : Key)
  | submit (key : Key)
  | advance (ms : Nat)
  /-- The timer of the button at a key fires if it is due. Each press has a timer of its own, and
  between two that are due anything can happen. -/
  | fire (key : Key)

/-- What was done on a screen, with the results. -/
inductive ScreenNote where
  | typed (key : Key) (text : String)
  | toggled (key : Key) (state : Reveal)
  | pressed (key : Key) (outcome : Activation) (instant : Nat)
  | submitted (key : Key)
  | fired (key : Key) (instant : Nat)

/-- The widgets of a shown document with a clock. -/
structure LiveScreen where
  mount : Mount
  now : Nat
  /-- What was done, the last first. -/
  log : List ScreenNote

/-- How long an event takes. -/
def ScreenEvent.duration : ScreenEvent → Nat
  | advance ms => ms
  | _ => 0

namespace LiveScreen

/-- A document that is just shown. -/
def ofDocument (d : Document) (start : Nat) : LiveScreen :=
  ⟨.ofDocument d, start, []⟩

/-- The state after an operation, or why it is refused. -/
def attempt (s : LiveScreen) : ScreenEvent → Except WidgetError LiveScreen
  | .setInput key text => (s.mount.setInput key text).map fun mount =>
    { s with mount := mount, log := .typed key text :: s.log }
  | .toggle key => (s.mount.toggleReveal key).map fun (state, mount) =>
    { s with mount := mount, log := .toggled key state :: s.log }
  | .press key => (s.mount.activate (some s.now) key).map fun (outcome, mount) =>
    { s with mount := mount, log := .pressed key outcome s.now :: s.log }
  | .submit key => (s.mount.submit key).map fun () =>
    { s with log := .submitted key :: s.log }
  | .advance ms => .ok { s with now := s.now + ms }
  | .fire key => .ok { s with mount := s.mount.fire s.now key, log := .fired key s.now :: s.log }

/-- The state after an event. What is refused has no effect. -/
def step (s : LiveScreen) (e : ScreenEvent) : LiveScreen :=
  match s.attempt e with
  | .ok next => next
  | .error _ => s

/-- The state after a list of events. -/
def run (s : LiveScreen) (events : List ScreenEvent) : LiveScreen :=
  events.foldl step s

end LiveScreen

/-! ## Pending presses -/

namespace LiveButton

/-- A press is dropped while an earlier one is pending, which leaves the button busy either way. -/
theorem activate?_of_pending (debounce now : Nat) (pending : Option Nat) :
    activate? (some now) ⟨debounce, if pending.isSome then .busy else .idle,
        pending.map (· + debounce)⟩ =
      some (if pending.isSome then .dropped else .accepted,
        ⟨debounce, .busy, some (pending.getD now + debounce)⟩) := by
  cases pending <;> rfl

/-- A press is not pending any more when the timer fires. -/
theorem elapse_of_pending (debounce now : Nat) (pending : Option Nat) :
    elapse now ⟨debounce, if pending.isSome then .busy else .idle, pending.map (· + debounce)⟩ =
      let left := pending.filter fun instant => ¬ min (instant + debounce) lastInstant ≤ now
      ⟨debounce, if left.isSome then .busy else .idle, left.map (· + debounce)⟩ := by
  cases pending with
  | none => rfl
  | some instant =>
    by_cases due : min (instant + debounce) lastInstant ≤ now
    · rw [Option.filter_some, decide_eq_false (not_not_intro due)]
      exact if_pos due
    · rw [Option.filter_some, decide_eq_true due]
      exact if_neg due

/-- A timer does not fire twice. -/
theorem elapse_elapse (now : Nat) (b : LiveButton) :
    (b.elapse now).elapse now = b.elapse now := by
  obtain ⟨debounce, state, _ | due⟩ := b
  · rfl
  · by_cases fires : min due lastInstant ≤ now
    · have idle : elapse now ⟨debounce, state, some due⟩ = ⟨debounce, .idle, none⟩ := if_pos fires
      rw [idle]
      rfl
    · have same : elapse now ⟨debounce, state, some due⟩ = ⟨debounce, state, some due⟩ :=
        if_neg fires
      rw [same, same]

end LiveButton

theorem Widget.elapse_elapse (now : Nat) (w : Widget) :
    (w.elapse now).elapse now = w.elapse now := by
  cases w with
  | button live => exact congrArg button (live.elapse_elapse now)
  | input live => rfl
  | form => rfl

/-! ## What the log says -/

namespace ScreenNote

/-- The text that was typed at a key. -/
def textAt? (key : Key) : ScreenNote → Option String
  | typed other text => if other = key then some text else none
  | _ => none

/-- Whether the reveal control at a key was used. -/
def togglesAt (key : Key) : ScreenNote → Bool
  | toggled other _ => other = key
  | _ => false

/-- When a press at a key was accepted. -/
def acceptedAt? (key : Key) : ScreenNote → Option Nat
  | pressed other .accepted instant => if other = key then some instant else none
  | _ => none

/-- Whether the timer at a key fired if it was due at an instant. -/
def firesAt (key : Key) (due : Nat) : ScreenNote → Bool
  | fired other instant => other = key ∧ min due LiveButton.lastInstant ≤ instant
  | _ => false

/-- The text that was typed last at a key. -/
def lastText (key : Key) (log : List ScreenNote) : String :=
  (log.findSome? (textAt? key)).getD ""

/-- The reveal control at a key is on when it was used an odd number of times. -/
def lastReveal (key : Key) (log : List ScreenNote) : Reveal :=
  if log.countP (togglesAt key) % 2 = 1 then .revealed else .masked

/-- The last press that was accepted at a key, if its timer has not fired since. -/
def pendingPress? (key : Key) (debounce : Nat) (log : List ScreenNote) : Option Nat :=
  (log.findSome? (acceptedAt? key)).filter fun instant =>
    (log.takeWhile fun note => (note.acceptedAt? key).isNone).all fun note =>
      !note.firesAt key (instant + debounce)

/-- Whether a note is about something else than the widget at a key. -/
structure Spares (note : ScreenNote) (key : Key) : Prop where
  textAt? : note.textAt? key = none
  togglesAt : note.togglesAt key = false
  acceptedAt? : note.acceptedAt? key = none
  firesAt : ∀ due, note.firesAt key due = false

variable {note : ScreenNote} {key : Key} {debounce : Nat} {log : List ScreenNote}

theorem Spares.lastText (spares : note.Spares key) :
    lastText key (note :: log) = lastText key log := by
  simp only [ScreenNote.lastText, List.findSome?_cons, spares.textAt?]

theorem Spares.lastReveal (spares : note.Spares key) :
    lastReveal key (note :: log) = lastReveal key log := by
  simp only [ScreenNote.lastReveal, List.countP_cons, spares.togglesAt, Bool.false_eq_true,
    if_false, Nat.add_zero]

theorem Spares.pendingPress? (spares : note.Spares key) :
    pendingPress? key debounce (note :: log) = pendingPress? key debounce log := by
  simp only [ScreenNote.pendingPress?, List.findSome?_cons, List.takeWhile_cons, spares.acceptedAt?,
    Option.isNone_none, if_true, List.all_cons, spares.firesAt, Bool.not_false, Bool.true_and]

/-- A press that is accepted is the last one. -/
theorem pendingPress?_accepted (instant : Nat) :
    pendingPress? key debounce (.pressed key .accepted instant :: log) = some instant := by
  simp [pendingPress?, acceptedAt?]

/-- A press is not pending any more when its timer fires. -/
theorem pendingPress?_fired (now : Nat) :
    pendingPress? key debounce (.fired key now :: log) = (pendingPress? key debounce log).filter
      fun instant => ¬ min (instant + debounce) LiveButton.lastInstant ≤ now := by
  simp only [pendingPress?, Option.filter_filter, List.findSome?_cons, List.takeWhile_cons,
    acceptedAt?, Option.isNone_none, if_true, List.all_cons, firesAt, true_and, decide_not]
  congr 1
  funext instant
  exact Bool.and_comm _ _

/-- A reveal control that is used is in the other state. -/
theorem lastReveal_toggled (state : Reveal) :
    lastReveal key (.toggled key state :: log) = (lastReveal key log).toggle := by
  simp only [lastReveal, List.countP_cons, togglesAt, decide_true, if_true]
  split <;> split <;> first | rfl | omega

end ScreenNote

open ScreenNote

/-- The widget of a node at a key after what was done. -/
def Widget.after? (log : List ScreenNote) (key : Key) : Node → Option Widget
  | .leaf (.button b) =>
    let pending := pendingPress? key b.debounceMs.toNat log
    some (.button ⟨b.debounceMs.toNat, if pending.isSome then .busy else .idle,
      pending.map (· + b.debounceMs.toNat)⟩)
  | .leaf (.input i) =>
    some (.input ⟨i.kind, i.hasRevealControl, lastText key log, lastReveal key log⟩)
  | .group (.form _) _ => some .form
  | _ => none

/-- What is about something else leaves the widget alone. -/
theorem ScreenNote.Spares.after? {note : ScreenNote} {key : Key} (spares : note.Spares key)
    (log : List ScreenNote) : Widget.after? (note :: log) key = Widget.after? log key := by
  funext node
  simp only [Widget.after?, spares.lastText, spares.lastReveal, spares.pendingPress?]

theorem Widget.after?_nil (key : Key) : Widget.after? [] key = Widget.ofNode? := by
  funext node
  rcases node with (_ | _ | _ | _) | ⟨(_ | _ | _), _⟩ <;> rfl

theorem Widget.after?_fired (now : Nat) (log : List ScreenNote) (key : Key) (node : Node) :
    after? (.fired key now :: log) key node = (after? log key node).map (elapse now) := by
  rcases node with (_ | i | b | _) | ⟨(_ | _ | _), _⟩
  case leaf.button =>
    simp only [after?, pendingPress?_fired, Option.map_some, elapse, LiveButton.elapse_of_pending]
  case leaf.input =>
    have spares : lastText key (.fired key now :: log) = lastText key log ∧
        lastReveal key (.fired key now :: log) = lastReveal key log := ⟨rfl, rfl⟩
    simp only [after?, spares, Option.map_some, elapse]
  all_goals rfl

/-! ## Mounted widgets -/

namespace Mount

variable {m : Mount} {key : Key}

theorem contains_eq_false_iff : m.contains key = false ↔ key ∉ m.widgets.map Prod.fst := by
  rw [contains, find?, Option.isSome_eq_false_iff, Option.isNone_iff_eq_none,
    lookup_eq_none_iff_not_mem]

/-- Nodes at fresh keys, none of which comes twice, leave the widgets that are there alone. -/
theorem foldl_plant : ∀ {entries : List (Key × Node)} {m : Mount},
    ((m.widgets.map Prod.fst) ++ entries.map Prod.fst).Nodup →
      entries.foldl (fun m entry => m.plant entry.1 entry.2) m =
        ⟨m.widgets ++ entries.filterMap fun entry =>
          (Widget.ofNode? entry.2).map fun w => (entry.1, w)⟩
  | [], m, _ => by simp
  | (key, node) :: rest, m, nodup => by
    have nodup_rest : (m.widgets.map Prod.fst ++ rest.map Prod.fst).Nodup :=
      nodup.sublist ((List.sublist_cons_self key _).append_left _)
    cases planted : Widget.ofNode? node with
    | none =>
      rw [List.foldl_cons, plant, planted, foldl_plant nodup_rest]
      simp [planted]
    | some widget =>
      have fresh : m.contains key = false := by
        refine contains_eq_false_iff.2 fun mem => ?_
        exact (List.nodup_append.1 nodup).2.2 key mem key (by simp) rfl
      have inserted : m.plant key node = ⟨m.widgets ++ [(key, widget)]⟩ := by
        simp [plant, planted, insert, fresh]
      rw [List.foldl_cons, inserted, foldl_plant (by simpa using nodup)]
      simp [planted]

/-- No widget takes the place of another, for no two nodes have the same key. -/
theorem ofDocument_eq (d : Document) : ofDocument d =
    ⟨d.keyedNodes.filterMap fun entry =>
      (Widget.ofNode? entry.2).map fun w => (entry.1, w)⟩ := by
  rw [ofDocument, Node.walk_eq_foldl]
  exact foldl_plant d.nodup_keyedNodes

theorem find?_ofDocument (d : Document) (key : Key) :
    (ofDocument d).find? key = (d.nodeAt? key).bind Widget.ofNode? := by
  rw [ofDocument_eq]
  exact lookup_filterMap Widget.ofNode? key d.nodup_keyedNodes

/-- The widgets when one is replaced. -/
theorem find?_set (m : Mount) (key other : Key) (widget : Widget) :
    (m.set key widget).find? other =
      if other = key then (m.find? other).map fun _ => widget else m.find? other :=
  lookup_map_at (fun _ => widget) other key m.widgets

/-- The widgets when the timer of one has fired. -/
theorem find?_fire (m : Mount) (now : Nat) (key other : Key) :
    (m.fire now key).find? other =
      if other = key then (m.find? other).map (Widget.elapse now) else m.find? other :=
  lookup_map_at (Widget.elapse now) other key m.widgets

/-- Timers that fire one after the other. -/
theorem foldl_fire (now : Nat) : ∀ (keys : List Key) (m : Mount),
    keys.foldl (fun m key => m.fire now key) m =
      ⟨m.widgets.map fun entry =>
        if entry.1 ∈ keys then (entry.1, entry.2.elapse now) else entry⟩
  | [], m => by simp
  | key :: rest, m => by
    rw [List.foldl_cons, foldl_fire now rest, fire, List.map_map]
    refine congrArg mk (List.map_congr_left fun entry _ => ?_)
    by_cases here : entry.1 = key
    · simp [here, Widget.elapse_elapse]
    · simp [here]

/-- All timers that are due fire when they do so one after the other. -/
theorem elapse_eq_foldl_fire (m : Mount) (now : Nat) :
    m.elapse now = (m.widgets.map Prod.fst).foldl (fun m key => m.fire now key) m := by
  rw [foldl_fire, elapse]
  refine congrArg mk (List.map_congr_left fun entry mem => ?_)
  rw [if_pos (List.mem_map_of_mem mem)]

end Mount

/-! ## Refused operations -/

/-- The kind of a widget. -/
def Widget.name : Widget → String
  | button _ => "button"
  | input _ => "input"
  | form => "form"

/-- The kind of widget that a node has, if it has one. -/
def Node.widgetName? : Node → Option String
  | leaf (.button _) => some "button"
  | leaf (.input _) => some "input"
  | group (.form _) _ => some "form"
  | _ => none

/-- Why an operation for one kind of widget is refused where there is another one or none. -/
def WidgetError.of? (key : Key) (expected : String) : Option String → Option WidgetError
  | none => some (notFound key)
  | some kind => if kind = expected then none else some (wrongKind key expected)

namespace Document

/-- Why an operation is refused, by the node at its key. -/
def refusal? (d : Document) : ScreenEvent → Option WidgetError
  | .setInput key _ => WidgetError.of? key "input" ((d.nodeAt? key).bind Node.widgetName?)
  | .toggle key =>
    match d.nodeAt? key with
    | some (.leaf (.input i)) => if i.hasRevealControl then none else some (.noRevealControl key)
    | node => WidgetError.of? key "input" (node.bind Node.widgetName?)
  | .press key => WidgetError.of? key "button" ((d.nodeAt? key).bind Node.widgetName?)
  | .submit key => WidgetError.of? key "form" ((d.nodeAt? key).bind Node.widgetName?)
  | .advance _ | .fire _ => none

/-- How long the button at a key stays busy. -/
def debounceAt (d : Document) (key : Key) : Nat :=
  match d.nodeAt? key with
  | some (.leaf (.button b)) => b.debounceMs.toNat
  | _ => 0

end Document

namespace Mount

variable {m : Mount} {key : Key} {e : WidgetError}

theorem input_eq_ok_iff {live : LiveInput} :
    m.input key = .ok live ↔ m.find? key = some (.input live) := by
  unfold input
  split <;> simp_all

theorem button_eq_ok_iff {live : LiveButton} :
    m.button key = .ok live ↔ m.find? key = some (.button live) := by
  unfold button
  split <;> simp_all

/-- What typing does. -/
theorem setInput_eq_ok_iff {text : String} {m' : Mount} : m.setInput key text = .ok m' ↔
    ∃ live, m.input key = .ok live ∧ m.set key (.input { live with value := text }) = m' := by
  simp only [setInput, bind_eq_ok_iff, pure, Except.pure, Except.ok.injEq]

/-- What using a reveal control does. -/
theorem toggleReveal_eq_ok_iff {state : Reveal} {m' : Mount} :
    m.toggleReveal key = .ok (state, m') ↔ ∃ live, m.input key = .ok live ∧
      live.hasControl = true ∧ live.revealState.toggle = state ∧
        m.set key (.input { live with revealState := live.revealState.toggle }) = m' := by
  rw [toggleReveal, bind_eq_ok_iff]
  refine exists_congr fun live => and_congr_right fun _ => ?_
  cases live.hasControl <;> simp [pure, Except.pure]

/-- What a press does. -/
theorem activate_eq_ok_iff {now : Nat} {outcome : Activation} {m' : Mount} :
    m.activate (some now) key = .ok (outcome, m') ↔ ∃ live, m.button key = .ok live ∧
      ∃ next, live.activate? (some now) = some (outcome, next) ∧
        m.set key (.button next) = m' := by
  rw [activate, bind_eq_ok_iff]
  refine exists_congr fun live => and_congr_right fun _ => ?_
  rcases live.activate? (some now) with _ | ⟨outcome', next⟩
  · simp
  · simp

theorem input_eq_error_iff :
    m.input key = .error e ↔
      WidgetError.of? key "input" ((m.find? key).map Widget.name) = some e := by
  cases found : m.find? key with
  | none => simp [input, found, WidgetError.of?]
  | some widget => cases widget <;> simp [input, found, WidgetError.of?, Widget.name]

theorem button_eq_error_iff :
    m.button key = .error e ↔
      WidgetError.of? key "button" ((m.find? key).map Widget.name) = some e := by
  cases found : m.find? key with
  | none => simp [button, found, WidgetError.of?]
  | some widget => cases widget <;> simp [button, found, WidgetError.of?, Widget.name]

theorem submit_eq_error_iff :
    m.submit key = .error e ↔
      WidgetError.of? key "form" ((m.find? key).map Widget.name) = some e := by
  cases found : m.find? key with
  | none => simp [submit, found, WidgetError.of?]
  | some widget => cases widget <;> simp [submit, found, WidgetError.of?, Widget.name]

theorem setInput_eq_error_iff {text : String} :
    m.setInput key text = .error e ↔ m.input key = .error e := by
  simp [setInput, bind_eq_error_iff, pure, Except.pure]

theorem toggleReveal_eq_error_iff : m.toggleReveal key = .error e ↔ m.input key = .error e ∨
    ∃ live, m.input key = .ok live ∧ live.hasControl = false ∧ .noRevealControl key = e := by
  rw [toggleReveal, bind_eq_error_iff]
  refine or_congr_right (exists_congr fun live => and_congr_right fun _ => ?_)
  cases live.hasControl <;> simp [pure, Except.pure]

/-- With a clock no press is refused for the lack of one. -/
theorem activate_eq_error_iff {now : Nat} :
    m.activate (some now) key = .error e ↔ m.button key = .error e := by
  rw [activate, bind_eq_error_iff]
  refine or_iff_left ?_
  rintro ⟨⟨debounce, state, deadline⟩, -, refused⟩
  cases state <;> cases refused

end Mount

/-! ## Widgets after what was done -/

namespace LiveScreen

variable {d : Document} {s next : LiveScreen}

/-- Whether all widgets are those of the nodes, after what was done. -/
def Logged (d : Document) (s : LiveScreen) : Prop :=
  ∀ key, s.mount.find? key = (d.nodeAt? key).bind (Widget.after? s.log key)

theorem logged_ofDocument (d : Document) (start : Nat) : Logged d (ofDocument d start) := by
  intro key
  rw [ofDocument, Widget.after?_nil]
  exact Mount.find?_ofDocument d key

/-- An input is that of a node. -/
theorem Logged.of_input (logged : Logged d s) {key : Key} {live : LiveInput}
    (found : s.mount.input key = .ok live) : ∃ i, d.nodeAt? key = some (.leaf (.input i)) ∧
      live = ⟨i.kind, i.hasRevealControl, lastText key s.log, lastReveal key s.log⟩ := by
  rw [Mount.input_eq_ok_iff, logged] at found
  obtain ⟨node, node_eq, found⟩ := Option.bind_eq_some_iff.1 found
  rcases node with (_ | i | _ | _) | ⟨(_ | _ | _), _⟩ <;> cases found
  exact ⟨i, node_eq, rfl⟩

/-- A button is that of a node. -/
theorem Logged.of_button (logged : Logged d s) {key : Key} {live : LiveButton}
    (found : s.mount.button key = .ok live) : ∃ b, d.nodeAt? key = some (.leaf (.button b)) ∧
      let pending := pendingPress? key b.debounceMs.toNat s.log
      live = ⟨b.debounceMs.toNat, if pending.isSome then .busy else .idle,
        pending.map (· + b.debounceMs.toNat)⟩ := by
  rw [Mount.button_eq_ok_iff, logged] at found
  obtain ⟨node, node_eq, found⟩ := Option.bind_eq_some_iff.1 found
  rcases node with (_ | _ | b | _) | ⟨(_ | _ | _), _⟩ <;> cases found
  exact ⟨b, node_eq, rfl⟩

/-- There is a widget of a kind where the node has one. -/
theorem Logged.name_eq (logged : Logged d s) (key : Key) :
    (s.mount.find? key).map Widget.name = (d.nodeAt? key).bind Node.widgetName? := by
  rw [logged]
  rcases d.nodeAt? key with _ | (_ | _ | _ | _) | ⟨(_ | _ | _), _⟩ <;> rfl

/-- Replacing one widget by what is logged keeps all others, if the note is about this one. -/
theorem Logged.set (logged : Logged d s) {key : Key} {node : Node} {widget : Widget}
    {note : ScreenNote} (node_eq : d.nodeAt? key = some node)
    (replaced : Widget.after? (note :: s.log) key node = some widget)
    (before : (s.mount.find? key).isSome = true) (others : ∀ other ≠ key, note.Spares other) :
    Logged d ⟨s.mount.set key widget, s.now, note :: s.log⟩ := by
  intro other
  obtain ⟨old, old_eq⟩ := Option.isSome_iff_exists.1 before
  dsimp only
  rw [Mount.find?_set]
  split_ifs with same
  · rw [same, node_eq, old_eq]
    exact replaced.symm
  · rw [(others other same).after?, logged]

/-- A reveal control is refused where the node at the key has none. -/
theorem Logged.toggleReveal_eq_error_iff (logged : Logged d s) {key : Key} {err : WidgetError} :
    s.mount.toggleReveal key = .error err ↔ d.refusal? (.toggle key) = some err := by
  rw [Mount.toggleReveal_eq_error_iff]
  cases found : s.mount.input key with
  | ok live =>
    obtain ⟨i, node_eq, rfl⟩ := logged.of_input found
    simp [Document.refusal?, node_eq]
  | error other =>
    have refused := Mount.input_eq_error_iff.1 found
    rw [logged.name_eq] at refused
    have refusal_eq : d.refusal? (.toggle key) = some other := by
      rw [← refused, Document.refusal?]
      split
      · next i node_eq =>
        rw [node_eq] at refused
        cases refused
      · rfl
    simp [refusal_eq]

/-- An operation is refused exactly where the document says so. -/
theorem Logged.attempt_eq_error_iff (logged : Logged d s) (e : ScreenEvent) (err : WidgetError) :
    s.attempt e = .error err ↔ d.refusal? e = some err := by
  cases e with
  | setInput key text =>
    rw [attempt, map_eq_error_iff, Mount.setInput_eq_error_iff, Mount.input_eq_error_iff,
      logged.name_eq, Document.refusal?]
  | toggle key => rw [attempt, map_eq_error_iff, logged.toggleReveal_eq_error_iff]
  | press key =>
    rw [attempt, map_eq_error_iff, Mount.activate_eq_error_iff, Mount.button_eq_error_iff,
      logged.name_eq, Document.refusal?]
  | submit key =>
    rw [attempt, map_eq_error_iff, Mount.submit_eq_error_iff, logged.name_eq, Document.refusal?]
  | advance | fire => simp [attempt, Document.refusal?]

/-- Typing leaves everything as it is logged. -/
theorem Logged.setInput (logged : Logged d s) {key : Key} {text : String} {m : Mount}
    (done : s.mount.setInput key text = .ok m) :
    Logged d ⟨m, s.now, .typed key text :: s.log⟩ := by
  obtain ⟨live, found, rfl⟩ := Mount.setInput_eq_ok_iff.1 done
  obtain ⟨i, node_eq, rfl⟩ := logged.of_input found
  refine logged.set node_eq ?_ (by simp [Mount.input_eq_ok_iff.1 found]) ?_
  · have typed : lastText key (.typed key text :: s.log) = text := by simp [lastText, textAt?]
    have control : lastReveal key (.typed key text :: s.log) = lastReveal key s.log := rfl
    rw [Widget.after?, typed, control]
  · intro other away
    exact ⟨if_neg away.symm, rfl, rfl, fun _ => rfl⟩

/-- Using a reveal control leaves everything as it is logged. -/
theorem Logged.toggleReveal (logged : Logged d s) {key : Key} {state : Reveal} {m : Mount}
    (done : s.mount.toggleReveal key = .ok (state, m)) :
    Logged d ⟨m, s.now, .toggled key state :: s.log⟩ := by
  obtain ⟨live, found, -, rfl, rfl⟩ := Mount.toggleReveal_eq_ok_iff.1 done
  obtain ⟨i, node_eq, rfl⟩ := logged.of_input found
  refine logged.set node_eq ?_ (by simp [Mount.input_eq_ok_iff.1 found]) ?_
  · rw [Widget.after?, lastReveal_toggled]
    rfl
  · intro other away
    exact ⟨rfl, decide_eq_false away.symm, rfl, fun _ => rfl⟩

/-- A press leaves everything as it is logged. -/
theorem Logged.activate (logged : Logged d s) {key : Key} {outcome : Activation} {m : Mount}
    (done : s.mount.activate (some s.now) key = .ok (outcome, m)) :
    Logged d ⟨m, s.now, .pressed key outcome s.now :: s.log⟩ := by
  obtain ⟨live, found, next, pressed, rfl⟩ := Mount.activate_eq_ok_iff.1 done
  obtain ⟨b, node_eq, live_eq⟩ := logged.of_button found
  refine logged.set node_eq ?_ (by simp [Mount.button_eq_ok_iff.1 found]) ?_
  · rw [live_eq, LiveButton.activate?_of_pending] at pressed
    cases pressed
    cases pending : pendingPress? key b.debounceMs.toNat s.log with
    | none =>
      rw [Option.isSome_none, if_neg Bool.false_ne_true, Widget.after?, pendingPress?_accepted]
      rfl
    | some instant =>
      -- a press that is dropped is not an accepted one
      have same : pendingPress? key b.debounceMs.toNat (.pressed key .dropped s.now :: s.log) =
          some instant := pending
      rw [Option.isSome_some, if_pos rfl, Widget.after?, same]
      rfl
  · intro other away
    cases outcome
    · exact ⟨rfl, rfl, if_neg away.symm, fun _ => rfl⟩
    · exact ⟨rfl, rfl, rfl, fun _ => rfl⟩

/-- A timer that fires leaves everything as it is logged. -/
theorem Logged.fire (logged : Logged d s) (key : Key) :
    Logged d ⟨s.mount.fire s.now key, s.now, .fired key s.now :: s.log⟩ := by
  intro other
  dsimp only
  rw [Mount.find?_fire]
  split_ifs with same
  · subst same
    rw [logged]
    cases d.nodeAt? other with
    | none => rfl
    | some node => exact (Widget.after?_fired s.now s.log other node).symm
  · have spares : (ScreenNote.fired key s.now).Spares other :=
      ⟨rfl, rfl, rfl, fun _ => by simp [firesAt, Ne.symm same]⟩
    rw [spares.after?, logged]

/-- A press is accepted if no earlier one is pending. -/
theorem Logged.outcome_eq (logged : Logged d s) {key : Key} {outcome : Activation} {m : Mount}
    (done : s.mount.activate (some s.now) key = .ok (outcome, m)) : outcome =
      if (pendingPress? key (d.debounceAt key) s.log).isSome then .dropped else .accepted := by
  obtain ⟨live, found, next, pressed, -⟩ := Mount.activate_eq_ok_iff.1 done
  obtain ⟨b, node_eq, live_eq⟩ := logged.of_button found
  have debounce_eq : d.debounceAt key = b.debounceMs.toNat := by
    rw [Document.debounceAt, node_eq]
  rw [live_eq, LiveButton.activate?_of_pending] at pressed
  cases pressed
  rw [debounce_eq]

/-- A reveal control that is used is then in the other state. -/
theorem Logged.state_eq (logged : Logged d s) {key : Key} {state : Reveal} {m : Mount}
    (done : s.mount.toggleReveal key = .ok (state, m)) :
    state = (lastReveal key s.log).toggle := by
  obtain ⟨live, found, -, rfl, -⟩ := Mount.toggleReveal_eq_ok_iff.1 done
  obtain ⟨i, -, rfl⟩ := logged.of_input found
  rfl

/-- What is logged of an event that is not refused, with the result that follows from what was
logged before. -/
def note? (d : Document) (s : LiveScreen) : ScreenEvent → Option ScreenNote
  | .setInput key text => some (.typed key text)
  | .toggle key => some (.toggled key (lastReveal key s.log).toggle)
  | .press key =>
    let busy := (pendingPress? key (d.debounceAt key) s.log).isSome
    some (.pressed key (if busy then .dropped else .accepted) s.now)
  | .submit key => some (.submitted key)
  | .advance _ => none
  | .fire key => some (.fired key s.now)

/-- What is not refused takes its time, is logged, and leaves everything as it is logged. -/
theorem Logged.attempt (logged : Logged d s) {e : ScreenEvent} (done : s.attempt e = .ok next) :
    Logged d next ∧ next.log = (s.note? d e).toList ++ s.log ∧
      next.now = s.now + e.duration := by
  cases e with
  | setInput key text =>
    obtain ⟨m, set, rfl⟩ := map_eq_ok_iff.1 done
    exact ⟨logged.setInput set, rfl, rfl⟩
  | toggle key =>
    obtain ⟨⟨state, m⟩, toggled, rfl⟩ := map_eq_ok_iff.1 done
    refine ⟨logged.toggleReveal toggled, ?_, rfl⟩
    rw [logged.state_eq toggled]
    rfl
  | press key =>
    obtain ⟨⟨outcome, m⟩, pressed, rfl⟩ := map_eq_ok_iff.1 done
    refine ⟨logged.activate pressed, ?_, rfl⟩
    rw [logged.outcome_eq pressed]
    rfl
  | submit key =>
    obtain ⟨⟨⟩, -, rfl⟩ := map_eq_ok_iff.1 done
    exact ⟨logged, rfl, rfl⟩
  | advance ms =>
    obtain rfl := Except.ok.inj done
    exact ⟨logged, rfl, rfl⟩
  | fire key =>
    obtain rfl := Except.ok.inj done
    exact ⟨logged.fire key, rfl, rfl⟩

theorem Logged.step (logged : Logged d s) (e : ScreenEvent) : Logged d (s.step e) := by
  unfold LiveScreen.step
  split
  · next next done => exact (logged.attempt done).1
  · exact logged

theorem Logged.log_step (logged : Logged d s) {e : ScreenEvent} (taken : d.refusal? e = none) :
    (s.step e).log = (s.note? d e).toList ++ s.log ∧ (s.step e).now = s.now + e.duration := by
  cases done : s.attempt e with
  | ok next =>
    rw [LiveScreen.step, done]
    exact (logged.attempt done).2
  | error err => cases taken.symm.trans ((logged.attempt_eq_error_iff e err).1 done)

/-- Every run leaves everything as it is logged. -/
theorem Logged.run : ∀ (events : List ScreenEvent) {s : LiveScreen}, Logged d s →
    Logged d (s.run events)
  | [], _, logged => logged
  | e :: rest, _, logged => Logged.run rest (logged.step e)

/-- A run in which timers fire one after the other. -/
theorem mount_run_fire : ∀ (keys : List Key) (s : LiveScreen),
    (s.run (keys.map .fire)).mount = keys.foldl (fun m key => m.fire s.now key) s.mount
  | [], _ => rfl
  | key :: rest, s => mount_run_fire rest (s.step (.fire key))

/-- All timers that are due fire in a run. -/
theorem elapse_eq_run (s : LiveScreen) :
    s.mount.elapse s.now = (s.run ((s.mount.widgets.map Prod.fst).map .fire)).mount := by
  rw [mount_run_fire, Mount.elapse_eq_foldl_fire]

end LiveScreen

/-! ## Drawing -/

namespace Element

mutual

/-- An element with its faces replaced, and those of all below it. -/
def mapFaces (f : Key → Face → Face) : Element → Element
  | leaf key face => leaf key (f key face)
  | group key g children => group key g (mapAllFaces f children)
  | placeholder key p => placeholder key p

/-- Elements with their faces replaced. -/
def mapAllFaces (f : Key → Face → Face) : List Element → List Element
  | [] => []
  | element :: rest => mapFaces f element :: mapAllFaces f rest

end

section

variable {mount : Option Mount} {f : Key → Face → Face}

mutual

/-- A mount only matters for the faces of the leaves. -/
theorem ofNode_eq_mapFaces {key : Key} : ∀ {node : Node},
    (∀ place l, (place, .leaf l) ∈ node.keyed key →
      drawLeaf mount place l = f place (drawLeaf none place l)) →
    ofNode mount key node = (ofNode none key node).mapFaces f
  | .leaf l, faces => by
    rw [ofNode, ofNode, mapFaces, faces key l (List.mem_singleton.2 rfl)]
  | .group g children, faces => by
    rw [ofNode, ofNode, mapFaces,
      ofNodes_eq_mapAllFaces fun place l mem => faces place l (List.mem_cons_of_mem _ mem)]

theorem ofNodes_eq_mapAllFaces {parent : Key} : ∀ {children : List Node} {index : Nat},
    (∀ place l, (place, .leaf l) ∈ Node.keyedChildren parent index children →
      drawLeaf mount place l = f place (drawLeaf none place l)) →
    ofNodes mount parent index children = mapAllFaces f (ofNodes none parent index children)
  | [], _, _ => rfl
  | node :: rest, index, faces => by
    rw [ofNodes, ofNodes, mapAllFaces,
      ofNode_eq_mapFaces fun place l mem => faces place l (List.mem_append_left _ mem),
      ofNodes_eq_mapAllFaces fun place l mem => faces place l (List.mem_append_right _ mem)]

end

mutual

/-- Every leaf is drawn at its key. -/
theorem mem_descendants_ofNode {key place : Key} {l : Leaf} : ∀ {node : Node},
    (place, .leaf l) ∈ node.keyed key →
      leaf place (drawLeaf mount place l) ∈ (ofNode mount key node).descendants
  | .leaf _, mem => by
    cases List.mem_singleton.1 mem
    rw [ofNode, descendants]
    exact .head _
  | .group g children, mem => by
    rw [ofNode, descendants]
    obtain itself | below := List.mem_cons.1 mem
    · cases itself
    · exact .tail _ (mem_descendantsOf_ofNodes below)

theorem mem_descendantsOf_ofNodes {parent place : Key} {l : Leaf} :
    ∀ {children : List Node} {index : Nat},
      (place, .leaf l) ∈ Node.keyedChildren parent index children →
        leaf place (drawLeaf mount place l) ∈ descendantsOf (ofNodes mount parent index children)
  | [], _, mem => by cases mem
  | node :: rest, index, mem => by
    rw [ofNodes, descendantsOf]
    obtain here | later := List.mem_append.1 mem
    · exact List.mem_append_left _ (mem_descendants_ofNode here)
    · exact List.mem_append_right _ (mem_descendantsOf_ofNodes later)

end

end

end Element

/-- A face after what was done. -/
def Face.after (d : Document) (log : List ScreenNote) (key : Key) : Face → Face
  | .input i => .input { i with
      value := lastText key log
      reveal := i.reveal.map fun _ => lastReveal key log }
  | .button b => .button { b with
      state := if (pendingPress? key (d.debounceAt key) log).isSome then .busy else .idle }
  | .text t => .text t
  | .image i => .image i

namespace LiveScreen

variable {d : Document} {s : LiveScreen}

/-- A leaf is drawn as the log says. -/
theorem Logged.drawLeaf_eq (logged : Logged d s) {key : Key} {l : Leaf}
    (mem : (key, .leaf l) ∈ d.keyedNodes) :
    Element.drawLeaf (some s.mount) key l =
      Face.after d s.log key (Element.drawLeaf none key l) := by
  have node_eq := Document.nodeAt?_eq_some_iff.2 mem
  have found := logged key
  rw [node_eq, Option.bind_some] at found
  cases l with
  | text t => rfl
  | image i => rfl
  | input i =>
    have live := Mount.input_eq_ok_iff.2 found
    simp only [Element.drawLeaf, Element.drawInput, Option.map_some, live, Option.map_none]
    cases control : i.hasRevealControl <;>
      simp [Face.after, LiveInput.fresh, LiveInput.reveal, control]
  | button b =>
    have live := Mount.button_eq_ok_iff.2 found
    simp [Element.drawLeaf, Element.drawButton, Mount.buttonState, live, Except.map, Face.after,
      Document.debounceAt, node_eq]

theorem Logged.draw_eq (logged : Logged d s) : Element.ofDocument d (some s.mount) =
    (Element.ofDocument d none).mapFaces (Face.after d s.log) :=
  Element.ofNode_eq_mapFaces fun _ _ => logged.drawLeaf_eq

/-- Every leaf is drawn at its key as the log says. -/
theorem Logged.mem_draw (logged : Logged d s) {key : Key} {l : Leaf}
    (mem : (key, .leaf l) ∈ d.keyedNodes) :
    .leaf key (Face.after d s.log key (Element.drawLeaf none key l)) ∈
      (Element.ofDocument d (some s.mount)).descendants := by
  rw [← logged.drawLeaf_eq mem]
  exact Element.mem_descendants_ofNode mem

/-- Every input is drawn at its key, with what the log says of its text and its reveal control. -/
theorem Logged.mem_draw_input (logged : Logged d s) {key : Key} {i : Input}
    (mem : (key, .leaf (.input i)) ∈ d.keyedNodes) :
    .leaf key (.input ⟨i.id, i.name, i.label, i.placeholder, i.kind, lastText key s.log,
        if i.hasRevealControl then some (lastReveal key s.log) else none⟩) ∈
      (Element.ofDocument d (some s.mount)).descendants := by
  have drawn := logged.mem_draw mem
  rw [Element.drawLeaf, Element.drawInput, Face.after] at drawn
  cases control : i.hasRevealControl <;>
    simpa [LiveInput.fresh, LiveInput.reveal, control] using drawn

/-- A freshly mounted screen is drawn like one without a mount. -/
theorem draw_fresh (d : Document) :
    Element.ofDocument d (some (.ofDocument d)) = Element.ofDocument d none := by
  have fresh : Element.ofDocument d none =
      (Element.ofDocument d none).mapFaces (Face.after d []) := by
    refine Element.ofNode_eq_mapFaces fun key l _ => ?_
    cases l with
    | input i =>
      simp only [Element.drawLeaf, Element.drawInput, Face.after]
      cases control : i.hasRevealControl <;>
        simp [LiveInput.fresh, LiveInput.reveal, control, lastText, lastReveal]
    | _ => rfl
  exact (logged_ofDocument d 0).draw_eq.trans fresh.symm

/-- After every run a screen is drawn as without a mount, except that each input shows the text
that was typed last at its key, and its reveal control, if it has one, is on if it was used an odd
number of times, and that each button is busy if the timer of the last press that it accepted has
not fired. So every input and every button of the document is drawn at its key, with the fields of
its node and the state that the log gives it. Operations are refused where the document has no node
for them, and have no effect then. All others are logged with their results. -/
theorem drawn_as_logged (d : Document) (start : Nat) (events : List ScreenEvent) :
    let s := (ofDocument d start).run events
    Element.ofDocument d (some s.mount) =
        (Element.ofDocument d none).mapFaces (Face.after d s.log) ∧
      (∀ key i, (key, .leaf (.input i)) ∈ d.keyedNodes →
        .leaf key (.input ⟨i.id, i.name, i.label, i.placeholder, i.kind, lastText key s.log,
            if i.hasRevealControl then some (lastReveal key s.log) else none⟩) ∈
          (Element.ofDocument d (some s.mount)).descendants) ∧
      (∀ key b, (key, .leaf (.button b)) ∈ d.keyedNodes →
        .leaf key (.button ⟨b.id, b.text, b.variant,
            if (pendingPress? key (d.debounceAt key) s.log).isSome then .busy else .idle⟩) ∈
          (Element.ofDocument d (some s.mount)).descendants) ∧
      (∀ e err, s.attempt e = .error err ↔ d.refusal? e = some err) ∧
      (∀ e err, d.refusal? e = some err → s.step e = s) ∧
      (∀ e, d.refusal? e = none →
        (s.step e).log = (s.note? d e).toList ++ s.log ∧ (s.step e).now = s.now + e.duration) ∧
      Element.ofDocument d (some (.ofDocument d)) = Element.ofDocument d none := by
  intro s
  have logged : Logged d s := Logged.run events (logged_ofDocument d start)
  refine ⟨logged.draw_eq, fun _ _ => logged.mem_draw_input, fun _ _ => logged.mem_draw,
    logged.attempt_eq_error_iff, fun e err refused => ?_, fun _ => logged.log_step, draw_fresh d⟩
  rw [step, (logged.attempt_eq_error_iff e err).2 refused]

/-- The sample on which texts are typed, into an input and at its button, its password is revealed
and its button pressed. -/
theorem sample_drawn_as_used :
    let key (index : Nat) := (Key.root.child 1).child index
    let s := (ofDocument Document.sample 0).run
      [.setInput (key 0) "me", .setInput (key 2) "no", .toggle (key 1), .press (key 2)]
    let drawn := (Element.ofDocument Document.sample (some s.mount)).descendants
    .leaf (key 0) (.input ⟨"email", "email", some "Email", none, .email, "me", none⟩) ∈ drawn ∧
      .leaf (key 1) (.input ⟨"pass", "password", some "Password", none, .password, "",
        some .revealed⟩) ∈ drawn ∧
      .leaf (key 2) (.button ⟨"cta", "Continue", .primary, .busy⟩) ∈ drawn := by
  intro key s drawn
  obtain ⟨-, inputs, buttons, -⟩ := drawn_as_logged Document.sample 0
    [.setInput (key 0) "me", .setInput (key 2) "no", .toggle (key 1), .press (key 2)]
  have typed : lastText (key 0) s.log = "me" := by decide +kernel
  have untouched : lastText (key 1) s.log = "" := by decide +kernel
  have used : lastReveal (key 1) s.log = .revealed := by decide +kernel
  have pending : pendingPress? (key 2) (Document.sample.debounceAt (key 2)) s.log = some 0 := by
    decide +kernel
  refine ⟨?_, ?_, ?_⟩
  · rw [← typed]
    exact inputs (key 0) ⟨"email", "email", some "Email", none, .email, true⟩
      (.tail _ (.tail _ (.tail _ (.head _))))
  · rw [← untouched, ← used]
    exact inputs (key 1) ⟨"pass", "password", some "Password", none, .password, true⟩
      (.tail _ (.tail _ (.tail _ (.tail _ (.head _)))))
  · have drawn_button := buttons (key 2) ⟨"cta", "Continue", .primary, defaults.debounceMs⟩
      (.tail _ (.tail _ (.tail _ (.tail _ (.tail _ (.head _))))))
    rwa [pending] at drawn_button

end LiveScreen

end Wireframe
