import Wireframe.Proofs.Screen.Live
import Wireframe.Proofs.Session.Shared
import Wireframe.Store.Memory

/-!
# Mounts of a session

Whoever holds the mount of an edition can use its widgets at any time, also when another document is
shown. `ShownSession` is a shared session with a clock, on which such uses come in between calls,
replacements and timers, each of which fires for itself (`ShownSession.elapse_eq_run`).

The mounts of the past are empty for good (`Session.Torn`), as every event either leaves them alone
or adds one more that is torn down (`Session.Remounts`). Two runs that differ in the uses of the
mounts up to some edition go on in parallel : their sessions differ in the shown mount at most, and
are the same as soon as a later edition is shown (`ShownSession.Alike`), because no event looks at
the mount except to change it.
-/

namespace Wireframe

/-! ## Uses of widgets -/

/-- What is done with a widget, by somebody or by its timer. -/
inductive WidgetUse where
  | setInput (key : Key) (text : String)
  | toggle (key : Key)
  | press (key : Key)
  | submit (key : Key)
  /-- The timer of the button at a key fires if it is due. -/
  | fire (key : Key)
deriving DecidableEq

namespace Mount

/-- The widgets after a use at an instant, or why it is refused. -/
def use (m : Mount) (now : Nat) : WidgetUse → Except WidgetError Mount
  | .setInput key text => m.setInput key text
  | .toggle key => (m.toggleReveal key).map Prod.snd
  | .press key => (m.activate (some now) key).map Prod.snd
  | .submit key => (m.submit key).map fun () => m
  | .fire key => .ok (m.fire now key)

/-- The widgets after a use. What is refused has no effect. -/
def afterUse (m : Mount) (now : Nat) (u : WidgetUse) : Mount :=
  match m.use now u with
  | .ok next => next
  | .error _ => m

/-- A mount on which nothing is left : every operation is refused because there is no widget, and
no timer is pending. -/
structure IsDead (m : Mount) : Prop where
  contains : ∀ key, m.contains key = false
  button : ∀ key, m.button key = .error (.notFound key)
  buttonState : ∀ key, m.buttonState key = .error (.notFound key)
  input : ∀ key, m.input key = .error (.notFound key)
  inputValue : ∀ key, m.inputValue key = .error (.notFound key)
  submit : ∀ key, m.submit key = .error (.notFound key)
  setInput : ∀ key text, m.setInput key text = .error (.notFound key)
  toggleReveal : ∀ key, m.toggleReveal key = .error (.notFound key)
  activate : ∀ clock key, m.activate clock key = .error (.notFound key)
  pending : m.pending = 0

theorem isDead_empty : IsDead ⟨[]⟩ :=
  ⟨fun _ => rfl, fun _ => rfl, fun _ => rfl, fun _ => rfl, fun _ => rfl, fun _ => rfl,
    fun _ _ => rfl, fun _ => rfl, fun _ _ => rfl, rfl⟩

/-- Without widgets no use has an effect. -/
theorem afterUse_empty (now : Nat) (u : WidgetUse) : afterUse ⟨[]⟩ now u = ⟨[]⟩ := by
  cases u <;> rfl

/-- A document has one widget at a key at most. -/
theorem nodup_ofDocument (d : Document) : ((ofDocument d).widgets.map Prod.fst).Nodup := by
  have nodup := d.nodup_keyedNodes
  rw [List.Nodup, List.pairwise_map] at nodup ⊢
  rw [ofDocument_eq, List.pairwise_filterMap]
  refine nodup.imp ?_
  intro a b differ entry mem entry' mem'
  obtain ⟨_, -, rfl⟩ := Option.map_eq_some_iff.1 mem
  obtain ⟨_, -, rfl⟩ := Option.map_eq_some_iff.1 mem'
  exact differ

/-- The mount of a document that nobody has touched : one widget for each input, button and form, of
their kind, the inputs empty and masked and the buttons idle. -/
structure IsFresh (m : Mount) (d : Document) : Prop where
  nodup : (m.widgets.map Prod.fst).Nodup
  kinds : ∀ key, (m.find? key).map Widget.name = (d.nodeAt? key).bind Node.widgetName?
  inputs : ∀ key live, m.input key = .ok live → live.value = "" ∧ live.revealState = .masked
  buttons : ∀ key live, m.button key = .ok live → live.state = .idle ∧ live.deadline = none

theorem isFresh_ofDocument (d : Document) : (ofDocument d).IsFresh d where
  nodup := nodup_ofDocument d
  kinds := (LiveScreen.logged_ofDocument d 0).name_eq
  inputs key live found := by
    obtain ⟨i, -, rfl⟩ := (LiveScreen.logged_ofDocument d 0).of_input found
    exact ⟨rfl, rfl⟩
  buttons key live found := by
    obtain ⟨b, -, rfl⟩ := (LiveScreen.logged_ofDocument d 0).of_button found
    exact ⟨rfl, rfl⟩

end Mount

/-! ## Sessions with another mount -/

namespace Session

variable {σ : Type}

/-- The session with other widgets. -/
def withMount (s : Session σ) (m : Mount) : Session σ :=
  { s with mount := m }

/-- The session after a use of the mount of an edition. -/
def afterUse (s : Session σ) (now n : Nat) (u : WidgetUse) : Session σ :=
  s.setMount n ((s.mountOf n).afterUse now u)

/-- The mount of the shown document takes every use. -/
theorem afterUse_edition (s : Session σ) (now : Nat) (u : WidgetUse) :
    s.afterUse now s.edition u = s.withMount (s.mount.afterUse now u) := by
  have shown : s.mountOf s.edition = s.mount := by simp [mountOf, edition]
  rw [afterUse, shown]
  exact if_pos rfl

/-- Whether all mounts of the past are empty. -/
def Torn (s : Session σ) : Prop :=
  ∀ m ∈ s.former, m = ⟨[]⟩

namespace Torn

variable {s : Session σ} {n : Nat}

theorem mountOf (torn : s.Torn) (unshown : n ≠ s.edition) : s.mountOf n = ⟨[]⟩ := by
  rw [Session.mountOf]
  rcases Nat.lt_or_gt_of_ne unshown with past | ahead
  · rw [List.getElem?_append_left past, List.getElem?_eq_getElem past]
    exact torn _ (List.getElem_mem past)
  · have bound : (s.former ++ [s.mount]).length ≤ n := by
      rw [List.length_append]
      exact ahead
    rw [List.getElem?_eq_none bound]
    rfl

/-- A use of a mount that is not shown has no effect. -/
theorem afterUse (torn : s.Torn) (unshown : n ≠ s.edition) (now : Nat) (u : WidgetUse) :
    s.afterUse now n u = s := by
  rw [Session.afterUse, torn.mountOf unshown, Mount.afterUse_empty, setMount, if_neg unshown]
  have former_eq : s.former.set n ⟨[]⟩ = s.former := by
    rcases Nat.lt_or_ge n s.former.length with past | ahead
    · rw [← torn _ (List.getElem_mem past), List.set_getElem_self]
    · exact List.set_eq_of_length_le ahead
  rw [former_eq]

/-- Timers fire on the shown mount only. -/
theorem elapse (torn : s.Torn) (now : Nat) :
    s.elapse now = s.withMount (s.mount.elapse now) := by
  have former_eq : (s.former.map fun m => m.elapse now) = s.former := by
    refine (List.map_congr_left fun m mem => ?_).trans (List.map_id _)
    rw [torn m mem]
    rfl
  rw [Session.elapse, former_eq]
  rfl

end Torn

/-- Whether the mounts of the past are the same as before, or the one that was shown is torn down
and the document has a fresh one. -/
def Remounts (s s' : Session σ) : Prop :=
  s'.former = s.former ∨
    s'.mount = .ofDocument s'.document ∧ s'.former = s.former ++ [⟨[]⟩]

namespace Remounts

variable {s s' : Session σ}

theorem torn (remounts : s.Remounts s') (torn : s.Torn) : s'.Torn := by
  intro m mem
  rcases remounts with same | ⟨-, more⟩
  · exact torn m (same ▸ mem)
  · rw [more, List.mem_append, List.mem_singleton] at mem
    exact mem.elim (torn m) id

theorem edition_le (remounts : s.Remounts s') : s.edition ≤ s'.edition := by
  rw [edition, edition]
  rcases remounts with same | ⟨-, more⟩
  · exact Nat.le_of_eq (by rw [same])
  · rw [more, List.length_append]
    exact Nat.le_add_right ..

/-- Another edition is the next one and has a fresh mount. -/
theorem next (remounts : s.Remounts s') (swaps : s'.edition ≠ s.edition) :
    s'.edition = s.edition + 1 ∧ s'.mount = .ofDocument s'.document := by
  rcases remounts with same | ⟨fresh, more⟩
  · exact absurd (congrArg List.length same) swaps
  · exact ⟨by rw [edition, more, List.length_append]; rfl, fresh⟩

end Remounts

end Session

/-- A call goes on without a look at the mount. -/
theorem Call.step_withMount {σ : Type} [KeyValueStore σ] (c : Call) (s : Session σ) (m : Mount) :
    c.step (s.withMount m) = ((c.step s).1,
      if (c.step s).2.edition = s.edition then (c.step s).2.withMount m else (c.step s).2) := by
  cases c with
  | recording r change =>
    have history_eq : (s.withMount m).history = s.history := rfl
    rcases step_eq : change.step s.history with ⟨change', history⟩
    simp only [step, step_eq, history_eq]
    split
    · exact Prod.ext rfl (if_pos rfl).symm
    · cases current : r.base.all (· = s.edition) with
      | true =>
        rw [Session.settle_of_current (s := { s.withMount m with history := history }) current,
          Session.settle_of_current (s := { s with history := history }) current]
        refine Prod.ext rfl (if_neg ?_).symm
        simp
      | false =>
        rw [Session.settle_of_past (s := { s.withMount m with history := history }) current,
          Session.settle_of_past (s := { s with history := history }) current]
        exact Prod.ext rfl (if_pos rfl).symm
    · exact Prod.ext rfl (if_pos rfl).symm
  | _ => exact Prod.ext rfl (if_pos rfl).symm

/-- A step of a call shows another document with a fresh mount, if it shows one. -/
theorem Call.Step.remounts {σ : Type} [KeyValueStore σ] {s s' : Session σ} {c c' : Call}
    (step : Step s c c' s') : s.Remounts s' := by
  cases step with
  | shows => exact .inr ⟨rfl, rfl⟩
  | _ => exact .inl rfl

/-- A call hears its answer without a look at the mount. -/
theorem Flight.hear_withMount {σ : Type} (f : Flight) (s : Session σ) (m : Mount) (a : Answer) :
    f.hear (s.withMount m) a = f.hear s a := by
  obtain ⟨request, edition, document, answer, call⟩ := f
  cases call <;> cases a <;> rfl

/-- A call begins without a look at the mount. -/
theorem Flight.begin_withMount {σ : Type} (s : Session σ) (m : Mount) (stamp : Stamp)
    (request : Request) : Flight.begin (s.withMount m) stamp request = .begin s stamp request := by
  cases request <;> rfl

namespace SharedSession

variable {σ : Type}

/-- The shared session with other widgets. -/
def withMount (w : SharedSession σ) (m : Mount) : SharedSession σ :=
  { w with session := w.session.withMount m }

variable [KeyValueStore σ]

/-- What happens to a shared session does not depend on the mount, which is kept while the edition
is. -/
theorem step_withMount (w : SharedSession σ) (m : Mount) (e : SessionEvent) :
    (w.withMount m).step e = if (w.step e).session.edition = w.session.edition
      then (w.step e).withMount m else w.step e := by
  have session_eq : (w.withMount m).session = w.session.withMount m := rfl
  cases e with
  | begin stamp request =>
    refine Eq.trans ?_ (if_pos rfl).symm
    simp only [step, session_eq, Flight.begin_withMount]
    rfl
  | replace d =>
    rw [if_neg (by simp [step, record])]
    rfl
  | renew ids => exact (if_pos rfl).symm
  | answer i a =>
    refine Eq.trans ?_ (if_pos ?_).symm
    · cases flight : w.flights[i]? with
      | none =>
        rw [(step_eq_self flight).1]
        exact (step_eq_self (w := w.withMount m) flight).1 a
      | some f =>
        rw [step_answer flight, step_answer (w := w.withMount m) flight, session_eq,
          Flight.hear_withMount]
        rfl
    · cases flight : w.flights[i]? with
      | none => rw [(step_eq_self flight).1]
      | some f => rw [step_answer flight]
  | resume i =>
    cases flight : w.flights[i]? with
    | none =>
      rw [(step_eq_self flight).2, if_pos rfl]
      exact (step_eq_self (w := w.withMount m) flight).2
    | some f =>
      rw [step_resume flight, step_resume (w := w.withMount m) flight, session_eq,
        Call.step_withMount]
      by_cases same : (f.call.step w.session).2.edition = w.session.edition
      · refine Eq.trans ?_ (if_pos same).symm
        rw [if_pos same]
        rfl
      · refine Eq.trans ?_ (if_neg same).symm
        rw [if_neg same]
        rfl

theorem remounts_step (w : SharedSession σ) (e : SessionEvent) :
    w.session.Remounts (w.step e).session := by
  cases e with
  | begin stamp request => exact .inl rfl
  | replace d => exact .inr ⟨rfl, rfl⟩
  | renew ids => exact .inl rfl
  | answer i a =>
    cases flight : w.flights[i]? with
    | none => exact .inl (by rw [(step_eq_self flight).1])
    | some f => exact .inl (by rw [step_answer flight])
  | resume i =>
    cases flight : w.flights[i]? with
    | none => exact .inl (by rw [(step_eq_self flight).2])
    | some f =>
      rw [step_resume flight]
      exact (f.call.step_spec w.session).remounts

end SharedSession

/-! ## Runs with uses -/

/-- A shared session with a clock. -/
structure ShownSession (σ : Type) extends SharedSession σ where
  now : Nat

/-- What can happen to a shared session on which widgets are used. -/
inductive ShownEvent where
  /-- Something happens to the session. -/
  | session (e : SessionEvent)
  /-- The mount of an edition is used, or one of its timers fires. -/
  | use (n : Nat) (u : WidgetUse)
  | advance (ms : Nat)

/-- Whether an event is no use of a mount up to an edition, and no timer of one. -/
def ShownEvent.spares (n : Nat) : ShownEvent → Bool
  | use other _ => n < other
  | session _ | advance _ => true

namespace ShownSession

variable {σ : Type}

/-- A session on which nothing has happened. -/
def ofSession (s : Session σ) (start : Nat) : ShownSession σ :=
  ⟨.ofSession s, start⟩

/-- The session with other widgets. -/
def withMount (w : ShownSession σ) (m : Mount) : ShownSession σ :=
  { w with toSharedSession := w.toSharedSession.withMount m }

variable [KeyValueStore σ]

/-- The state after an event. -/
def step (w : ShownSession σ) : ShownEvent → ShownSession σ
  | .session e => { w with toSharedSession := w.toSharedSession.step e }
  | .use n u => { w with session := w.session.afterUse w.now n u }
  | .advance ms => { w with now := w.now + ms }

/-- The state after a list of events. -/
def run (w : ShownSession σ) (events : List ShownEvent) : ShownSession σ :=
  events.foldl step w

theorem run_cons (w : ShownSession σ) (e : ShownEvent) (rest : List ShownEvent) :
    w.run (e :: rest) = (w.step e).run rest :=
  rfl

theorem run_append (w : ShownSession σ) (before after : List ShownEvent) :
    w.run (before ++ after) = (w.run before).run after :=
  List.foldl_append

variable {w a b : ShownSession σ} {n k : Nat}

/-! ## Events on torn mounts -/

/-- The mount of the shown document takes every use. -/
theorem step_use_edition (w : ShownSession σ) (u : WidgetUse) :
    w.step (.use w.session.edition u) = w.withMount (w.session.mount.afterUse w.now u) := by
  rw [step, Session.afterUse_edition]
  rfl

/-- A use of a mount that is not shown has no effect. -/
theorem step_use_of_ne (torn : w.session.Torn) (unshown : n ≠ w.session.edition) (u : WidgetUse) :
    w.step (.use n u) = w := by
  rw [step, torn.afterUse unshown]

/-- Timers of the shown mount that fire one after the other. -/
theorem run_fire : ∀ (keys : List Key) (w : ShownSession σ),
    w.run (keys.map fun key => .use w.session.edition (.fire key)) =
      w.withMount (keys.foldl (fun m key => m.fire w.now key) w.session.mount)
  | [], _ => rfl
  | key :: rest, w => by
    rw [List.map_cons, run_cons, step_use_edition]
    exact run_fire rest (w.withMount (w.session.mount.fire w.now key))

/-- When all timers that are due fire, it is as if those of the shown mount did so one after the
other. -/
theorem elapse_eq_run (torn : w.session.Torn) :
    { w with session := w.session.elapse w.now } =
      w.run ((w.session.mount.widgets.map Prod.fst).map fun key =>
        .use w.session.edition (.fire key)) := by
  rw [run_fire, ← Mount.elapse_eq_foldl_fire, torn.elapse]
  rfl

theorem remounts_step (torn : w.session.Torn) (e : ShownEvent) :
    w.session.Remounts (w.step e).session := by
  cases e with
  | session e => exact w.toSharedSession.remounts_step e
  | use n u =>
    by_cases shown : n = w.session.edition
    · rw [shown, step_use_edition]
      exact .inl rfl
    · rw [step_use_of_ne torn shown]
      exact .inl rfl
  | advance ms => exact .inl rfl

/-- On every run the mounts of the past are empty, and no edition comes back. -/
theorem run_spec : ∀ (events : List ShownEvent) {w : ShownSession σ}, w.session.Torn →
    (w.run events).session.Torn ∧ w.session.edition ≤ (w.run events).session.edition
  | [], _, torn => ⟨torn, Nat.le_refl _⟩
  | e :: rest, _, torn =>
    have remounts := remounts_step torn e
    have later := run_spec rest (remounts.torn torn)
    ⟨later.1, Nat.le_trans remounts.edition_le later.2⟩

/-! ## Runs that differ in the uses of old mounts -/

/-- Whether two sessions differ in the shown mount only, and are the same if an edition after the
given one is shown. -/
def Alike (k : Nat) (a b : ShownSession σ) : Prop :=
  ∃ m, b = a.withMount m ∧ (k < a.session.edition → b = a)

omit [KeyValueStore σ] in
theorem Alike.refl (k : Nat) (a : ShownSession σ) : Alike k a a :=
  ⟨a.session.mount, rfl, fun _ => rfl⟩

/-- An event on a session with another mount changes that mount, if the edition stays. -/
theorem step_withMount (torn : a.session.Torn) (m : Mount) (e : ShownEvent) :
    (a.withMount m).step e = a.step e ∨ (a.step e).session.edition = a.session.edition ∧
      ∃ m', (a.withMount m).step e = (a.step e).withMount m' := by
  have torn' : (a.withMount m).session.Torn := torn
  have edition_eq : (a.withMount m).session.edition = a.session.edition := rfl
  cases e with
  | session e =>
    have other : (a.withMount m).step (.session e) =
        { a with toSharedSession := (a.toSharedSession.withMount m).step e } := rfl
    rw [SharedSession.step_withMount] at other
    by_cases same : (a.toSharedSession.step e).session.edition = a.session.edition
    · exact .inr ⟨same, m, other.trans (by rw [if_pos same]; rfl)⟩
    · exact .inl (other.trans (by rw [if_neg same]; rfl))
  | use n u =>
    by_cases shown : n = a.session.edition
    · subst shown
      refine .inr ⟨?_, m.afterUse a.now u, ?_⟩
      · rw [step_use_edition]
        rfl
      · rw [← edition_eq, step_use_edition, edition_eq, step_use_edition]
        rfl
    · rw [step_use_of_ne torn shown, step_use_of_ne torn' shown]
      exact .inr ⟨rfl, m, rfl⟩
  | advance ms => exact .inr ⟨rfl, m, rfl⟩

/-- What happens to both sessions leaves them alike. -/
theorem Alike.step (alike : Alike k a b) (torn : a.session.Torn) (e : ShownEvent) :
    Alike k (a.step e) (b.step e) := by
  obtain ⟨m, rfl, same⟩ := alike
  rcases step_withMount torn m e with eq | ⟨edition_eq, m', eq⟩
  · exact eq ▸ .refl k _
  · exact ⟨m', eq, fun later => by rw [same (edition_eq ▸ later)]⟩

/-- A use of an old mount on one side leaves them alike. -/
theorem Alike.step_use (alike : Alike k a b) (torn : a.session.Torn) (old : n ≤ k) (u : WidgetUse) :
    Alike k (a.step (.use n u)) b := by
  by_cases shown : n = a.session.edition
  · obtain ⟨m, rfl, -⟩ := alike
    subst shown
    rw [step_use_edition]
    exact ⟨m, rfl, fun later => absurd later (Nat.not_lt.2 old)⟩
  · rwa [step_use_of_ne torn shown]

/-- Without the uses of old mounts a run leads to a session that is alike. -/
theorem Alike.run : ∀ (events : List ShownEvent) {a b : ShownSession σ}, Alike k a b →
    a.session.Torn → Alike k (a.run events) (b.run (events.filter (ShownEvent.spares k)))
  | [], _, _, alike, _ => alike
  | e :: rest, a, b, alike, torn => by
    cases spared : e.spares k with
    | true =>
      rw [List.filter_cons_of_pos spared]
      exact Alike.run rest (alike.step torn e) ((remounts_step torn e).torn torn)
    | false =>
      -- only the run with all events sees this one, a use of an old mount
      rw [List.filter_cons_of_neg (by simp [spared])]
      refine Alike.run rest ?_ ((remounts_step torn e).torn torn)
      cases e with
      | use n u => exact alike.step_use torn (by simpa [ShownEvent.spares] using spared) u
      | _ => cases spared

/-- Two runs that differ in the uses of old mounts end in the same session, when one of them shows
an edition that came after these. -/
theorem run_eq_of_filter_eq (torn : w.session.Torn) {events others : List ShownEvent}
    (filter_eq : events.filter (ShownEvent.spares k) = others.filter (ShownEvent.spares k))
    (later : k < (w.run events).session.edition) : w.run others = w.run events := by
  obtain ⟨m, swept, same⟩ := Alike.run (k := k) events (.refl k w) torn
  obtain ⟨m', swept', same'⟩ := Alike.run (k := k) others (.refl k w) torn
  have edition_eq : (w.run others).session.edition = (w.run events).session.edition :=
    calc (w.run others).session.edition
        = (w.run (others.filter (ShownEvent.spares k))).session.edition := by rw [swept']; rfl
      _ = (w.run (events.filter (ShownEvent.spares k))).session.edition := by rw [filter_eq]
      _ = (w.run events).session.edition := by rw [swept]; rfl
  calc w.run others
      = w.run (others.filter (ShownEvent.spares k)) := (same' (edition_eq ▸ later)).symm
    _ = w.run (events.filter (ShownEvent.spares k)) := by rw [filter_eq]
    _ = w.run events := same later

/-- A replaced document leaves nothing behind. Whatever happened before, when an event shows another
document the new mount is fresh. From then on the mounts of all earlier documents refuse everything
and have no timer, and it makes no difference whether they are used or their timers fire, earlier or
later : every run with the same events apart from these leads to the same session. -/
theorem swap_leaves_no_widget (policy : IngestPolicy) (strategies : List Strategy)
    (document : Document) (history : History σ) (clock : Nat) (before later : List ShownEvent)
    (e : ShownEvent) :
    let start := ofSession (.start policy strategies document history) clock
    let w := start.run before
    let v := w.step e
    v.session.edition ≠ w.session.edition →
      v.session.edition = w.session.edition + 1 ∧
      v.session.mount.IsFresh v.session.document ∧
      (∀ n ≤ w.session.edition, ((v.run later).session.mountOf n).IsDead) ∧
      ∀ events : List ShownEvent,
        events.filter (ShownEvent.spares w.session.edition) =
          (before ++ e :: later).filter (ShownEvent.spares w.session.edition) →
        start.run events = v.run later := by
  intro start w v swaps
  have torn : start.session.Torn := fun m mem => absurd mem List.not_mem_nil
  have torn_w : w.session.Torn := (run_spec before torn).1
  have remounts : w.session.Remounts v.session := remounts_step torn_w e
  obtain ⟨torn_end, le⟩ := run_spec later (remounts.torn torn_w)
  obtain ⟨next, fresh⟩ := remounts.next swaps
  have run_eq : start.run (before ++ e :: later) = v.run later := by
    rw [run_append, run_cons]
  refine ⟨next, ?_, fun n old => ?_, fun events filter_eq => ?_⟩
  · rw [fresh]
    exact Mount.isFresh_ofDocument _
  · have unshown : n ≠ (v.run later).session.edition := by omega
    rw [torn_end.mountOf unshown]
    exact Mount.isDead_empty
  · have shown_later : w.session.edition < (start.run (before ++ e :: later)).session.edition := by
      rw [run_eq]
      omega
    rw [← run_eq]
    exact run_eq_of_filter_eq torn filter_eq.symm shown_later

/-- The sample replaced by itself while its button is busy : the new button is idle, the timer of
the old one never fires, and the new mount is used as if the old button had not been pressed. -/
theorem busy_button_is_replaced :
    let start : ShownSession MemoryStore := ofSession (.start ⟨false, true, .structural⟩
      Strategy.standard Document.sample (History.ofStore MemoryStore.empty 30)) 0
    let key := (Key.root.child 1).child 2
    let w := start.run [.use 0 (.press key)]
    let v := w.step (.session (.replace Document.sample))
    let later : List ShownEvent := [.use 0 (.press key), .use 1 (.press key), .advance 100,
      .use 0 (.fire key), .use 1 (.fire key)]
    (w.session.mount.pending = 1 ∧ v.session.edition ≠ w.session.edition) ∧
    (v.session.edition = 1 ∧ v.session.mount.pending = 0 ∧
      (v.run later).session.mount.pending = 1) ∧
    v.session.mount.IsFresh Document.sample ∧
    ((v.run later).session.mountOf 0).IsDead ∧
    start.run [.session (.replace Document.sample), .use 1 (.press key), .advance 100,
      .use 1 (.fire key)] = v.run later := by
  intro start key w v later
  have swaps : v.session.edition ≠ w.session.edition := Nat.one_ne_zero
  obtain ⟨next, fresh, dead, frame⟩ := swap_leaves_no_widget ⟨false, true, .structural⟩
    Strategy.standard Document.sample (History.ofStore MemoryStore.empty 30) 0
    [.use 0 (.press key)] later (.session (.replace Document.sample)) swaps
  refine ⟨⟨by decide +kernel, swaps⟩, ⟨next, by decide +kernel, by decide +kernel⟩, fresh,
    dead 0 (Nat.le_refl _), frame _ rfl⟩

end ShownSession

end Wireframe
