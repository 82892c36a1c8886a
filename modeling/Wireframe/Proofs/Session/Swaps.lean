import Wireframe.Proofs.Session.Revision
import Wireframe.Proofs.Session.Shared
import Wireframe.Store.Memory

/-!
# Replacements and the transcript

A call that asks the service holds the number of the edition that it read. Editions only grow, so
a call that may show its revision still finds the document that it sent. `SharedSession.Sound` is
the invariant : what a call knows fits the session, and the log has exactly the successful calls
as makers, each once and at the edition that it read.
-/

namespace Wireframe

/-! ## Calls -/

namespace Call

/-- No call that goes on to record has succeeded already. -/
theorem ofRevision_ne_ok (e : Except SessionError Revision) (r : Revision) :
    ofRevision e ≠ .over (.ok r) := by
  cases e <;> simp [ofRevision]

end Call

namespace Flight

variable {σ : Type}

/-- The edition that has to be shown still at the end of a call. -/
def base (f : Flight) : Option Nat :=
  if f.request.asksService then some f.edition else none

/-- Whether a call holds what its request and its answer say. -/
def Coherent (f : Flight) : Prop :=
  match f.call with
  | .awaitingEdit base _ instruction => base = f.edition ∧ f.request = .chat instruction
  | .awaitingGeneration base _ => base = f.edition ∧ f.request = .generate
  | .awaitingSnapshot _ _ => f.request.asksService = false
  | .recording r _ | .over (.ok r) => r.base = f.base ∧ r.messages = f.block
  | .over (.error _) => True

/-- Whether a call read an edition of a session, and the document of it. -/
def ReadFrom (s : Session σ) (f : Flight) : Prop :=
  f.edition ≤ s.edition ∧ (f.edition = s.edition → f.document = s.document)

/-- What a call read of an edition is past after the next one. -/
theorem ReadFrom.past {s s' : Session σ} {f : Flight} (read : f.ReadFrom s)
    (edition_eq : s'.edition = s.edition + 1) : f.ReadFrom s' := by
  obtain ⟨le, -⟩ := read
  refine ⟨by omega, fun same => ?_⟩
  omega

/-- Whether a call is not over. -/
def UnderWay (f : Flight) : Prop :=
  ∀ result, f.call ≠ .over result

/-- Whether a call succeeded with a revision. -/
def Succeeded (f : Flight) (r : Revision) : Prop :=
  f.call = .over (.ok r)

theorem block_of_not_asksService {f : Flight} (quiet : f.request.asksService = false) :
    f.block = [] := by
  unfold block
  cases h : f.request <;> simp_all [Request.asksService]

theorem base_of_not_asksService {f : Flight} (quiet : f.request.asksService = false) :
    f.base = none := by
  simp [base, quiet]

/-- A call that goes on with a revision made for it is coherent. -/
theorem coherent_of_ofRevision {f : Flight} {e : Except SessionError Revision}
    (call_eq : f.call = .ofRevision e)
    (made : ∀ r, e = .ok r → r.base = f.base ∧ r.messages = f.block) : f.Coherent := by
  cases e with
  | error e => simp [Coherent, call_eq, Call.ofRevision]
  | ok r => simpa [Coherent, call_eq, Call.ofRevision] using made r rfl

/-- A call that begins is coherent. -/
theorem coherent_begin (s : Session σ) (stamp : Stamp) (request : Request) :
    (begin s stamp request).Coherent := by
  cases request with
  | load source raw =>
    refine coherent_of_ofRevision rfl fun r made => ?_
    obtain ⟨origin, ingested⟩ := map_snd_eq_ok_iff.1 made
    obtain ⟨d, -, rfl⟩ := Session.ingested_eq_ok_iff.1 ingested
    exact ⟨rfl, rfl⟩
  | loadText source text =>
    refine coherent_of_ofRevision rfl fun r made => ?_
    obtain ⟨origin, ingestedText⟩ := map_snd_eq_ok_iff.1 made
    obtain ⟨raw, -, ingested⟩ := Session.ingestedText_eq_ok_iff.1 ingestedText
    obtain ⟨d, -, rfl⟩ := Session.ingested_eq_ok_iff.1 ingested
    exact ⟨rfl, rfl⟩
  | chat instruction => exact ⟨rfl, rfl⟩
  | generate => exact ⟨rfl, rfl⟩
  | restore id => rfl

/-- A call that begins reads the shown document. -/
theorem readFrom_begin (s : Session σ) (stamp : Stamp) (request : Request) :
    (begin s stamp request).ReadFrom s :=
  ⟨Nat.le_refl _, fun _ => by cases request <;> rfl⟩

/-- A call that begins has not succeeded. -/
theorem not_succeeded_begin (s : Session σ) (stamp : Stamp) (request : Request) (r : Revision) :
    ¬ (begin s stamp request).Succeeded r := by
  cases request with
  | load | loadText => exact Call.ofRevision_ne_ok _ r
  | chat | generate | restore => exact fun h => nomatch h

section Hearing

variable (f : Flight) (s : Session σ) (a : Answer)

@[simp] theorem edition_hear : (f.hear s a).edition = f.edition := by
  unfold hear
  split <;> rfl

@[simp] theorem document_hear : (f.hear s a).document = f.document := by
  unfold hear
  split <;> rfl

variable {f s a}

/-- A call that hears an answer stays coherent. -/
theorem Coherent.hear (coherent : f.Coherent) : (f.hear s a).Coherent := by
  unfold Flight.hear
  split
  · next base stamp instruction reply call_eq =>
    simp only [Coherent, call_eq] at coherent
    obtain ⟨rfl, request_eq⟩ := coherent
    rw [call_eq]
    refine coherent_of_ofRevision rfl fun r made => ?_
    obtain ⟨answer, d, rfl, -, rfl⟩ := Session.edited_eq_ok_iff.1 made
    simp [Flight.base, block, request_eq, Request.asksService, Session.editMessages]
  · next base stamp reply call_eq =>
    simp only [Coherent, call_eq] at coherent
    obtain ⟨rfl, request_eq⟩ := coherent
    rw [call_eq]
    refine coherent_of_ofRevision rfl fun r made => ?_
    obtain ⟨answer, d, rfl, -, rfl⟩ := Session.generated_eq_ok_iff.1 made
    simp [Flight.base, block, request_eq, Request.asksService]
  · exact coherent

/-- No call succeeds by hearing an answer. -/
theorem Succeeded.of_hear {r : Revision} (h : (f.hear s a).Succeeded r) : f.Succeeded r := by
  unfold Flight.hear at h
  split at h
  · next call_eq =>
    rw [call_eq] at h
    exact absurd h (Call.ofRevision_ne_ok _ r)
  · next call_eq =>
    rw [call_eq] at h
    exact absurd h (Call.ofRevision_ne_ok _ r)
  · exact h

/-- A call that is over hears nothing any more. -/
theorem Succeeded.hear_eq {r : Revision} (h : f.Succeeded r) : f.hear s a = f := by
  unfold Flight.hear
  rw [show f.call = .over (.ok r) from h]

end Hearing

end Flight

/-! ## The invariant -/

namespace SharedSession

variable {σ : Type}

/-- Whether the calls and the log of a shared session fit it. -/
structure Sound (w : SharedSession σ) : Prop where
  coherent : ∀ f ∈ w.flights, f.Coherent
  readFrom : ∀ f ∈ w.flights, f.ReadFrom w.session
  /-- The log numbers the editions. -/
  edition : w.swaps.length = w.session.edition
  /-- A call that succeeded is in the log, at the edition that it read if it asked the service. -/
  logged : ∀ {i : Nat} {f : Flight} {r : Revision}, w.flights[i]? = some f → f.Succeeded r →
    ∃ n former, w.swaps[n]? = some ⟨some i, former, r.document⟩ ∧
      (f.request.asksService = true → n = f.edition ∧ former = f.document)
  succeeded : ∀ {i : Nat}, i ∈ w.makers → ∃ f r, w.flights[i]? = some f ∧ f.Succeeded r
  once : w.makers.Nodup
  transcript : w.session.transcript = w.swaps.flatMap w.blockOf

theorem sound_ofSession {s : Session σ} (fresh : s.former = []) (silent : s.transcript = []) :
    (ofSession s).Sound where
  coherent := by simp [ofSession]
  readFrom := by simp [ofSession]
  edition := by simp [ofSession, Session.edition, fresh]
  logged := by simp [ofSession]
  succeeded := by simp [ofSession, makers]
  once := by simp [ofSession, makers]
  transcript := by simp [ofSession, silent]

/-- The blocks of a log only depend on the calls that made it. -/
theorem flatMap_blockOf_congr {w w' : SharedSession σ} {swaps : List Swap}
    (same : ∀ i ∈ swaps.filterMap Swap.maker, w'.flights[i]? = w.flights[i]?) :
    swaps.flatMap w'.blockOf = swaps.flatMap w.blockOf := by
  have each : ∀ swap ∈ swaps, w'.blockOf swap = w.blockOf swap := by
    intro swap mem
    cases maker_eq : swap.maker with
    | none => simp [blockOf, maker_eq]
    | some i => simp [blockOf, maker_eq, same i (List.mem_filterMap.2 ⟨swap, mem, maker_eq⟩)]
  rw [List.flatMap_def, List.flatMap_def, List.map_congr_left each]

/-- An entry of the log stays where it is when the log grows. -/
theorem Sound.logged_append {w : SharedSession σ} (sound : w.Sound) {i : Nat} {f : Flight}
    {r : Revision} (flight : w.flights[i]? = some f) (ok : f.Succeeded r) (swap : Swap) :
    ∃ n former, (w.swaps ++ [swap])[n]? = some ⟨some i, former, r.document⟩ ∧
      (f.request.asksService = true → n = f.edition ∧ former = f.document) := by
  obtain ⟨n, former, entry, read⟩ := sound.logged flight ok
  refine ⟨n, former, ?_, read⟩
  rw [List.getElem?_append_left (List.getElem?_eq_some_iff.1 entry).1, entry]

/-- A call that is still recording has made no replacement. -/
theorem Sound.not_mem_makers {w : SharedSession σ} (sound : w.Sound) {i : Nat} {f : Flight}
    {r : Revision} {change : ChangeInProgress} (flight : w.flights[i]? = some f)
    (call_eq : f.call = .recording r change) : i ∉ w.makers := by
  intro maker
  obtain ⟨g, r', flight', ok⟩ := sound.succeeded maker
  obtain rfl := Option.some.inj (flight.symm.trans flight')
  rw [Flight.Succeeded, call_eq] at ok
  cases ok

/-- Nothing is lost where no document is replaced and no call succeeds. -/
theorem Sound.of_quiet {w w' : SharedSession σ} (sound : w.Sound)
    (coherent : ∀ f ∈ w'.flights, f.Coherent) (readFrom : ∀ f ∈ w'.flights, f.ReadFrom w.session)
    (edition_eq : w'.session.edition = w.session.edition)
    (document_eq : w'.session.document = w.session.document)
    (transcript_eq : w'.session.transcript = w.session.transcript) (swaps_eq : w'.swaps = w.swaps)
    (succeeded : ∀ {i : Nat} {f : Flight} {r : Revision}, f.Succeeded r →
      (w'.flights[i]? = some f ↔ w.flights[i]? = some f)) : w'.Sound where
  coherent := coherent
  readFrom f mem := by
    obtain ⟨le, document⟩ := readFrom f mem
    exact ⟨edition_eq ▸ le, fun h => document_eq ▸ document (edition_eq ▸ h)⟩
  edition := by rw [swaps_eq, edition_eq, sound.edition]
  logged flight ok := by
    rw [swaps_eq]
    exact sound.logged ((succeeded ok).1 flight) ok
  succeeded maker := by
    rw [makers, swaps_eq] at maker
    obtain ⟨f, r, flight, ok⟩ := sound.succeeded maker
    exact ⟨f, r, (succeeded ok).2 flight, ok⟩
  once := by
    rw [makers, swaps_eq]
    exact sound.once
  transcript := by
    rw [transcript_eq, swaps_eq, sound.transcript]
    refine (flatMap_blockOf_congr fun i maker => ?_).symm
    obtain ⟨f, r, flight, ok⟩ := sound.succeeded maker
    rw [flight, (succeeded ok).2 flight]

/-- A call that begins keeps the invariant. -/
theorem Sound.begin [KeyValueStore σ] {w : SharedSession σ} (sound : w.Sound) (stamp : Stamp)
    (request : Request) : (w.step (.begin stamp request)).Sound := by
  refine sound.of_quiet ?_ ?_ rfl rfl rfl rfl ?_
  · intro f mem
    rcases List.mem_append.1 mem with old | new
    · exact sound.coherent f old
    · obtain rfl := List.mem_singleton.1 new
      exact Flight.coherent_begin _ _ _
  · intro f mem
    rcases List.mem_append.1 mem with old | new
    · exact sound.readFrom f old
    · obtain rfl := List.mem_singleton.1 new
      exact Flight.readFrom_begin _ _ _
  · intro i f r ok
    have new : f ≠ Flight.begin w.session stamp request := by
      rintro rfl
      exact Flight.not_succeeded_begin _ _ _ r ok
    simp only [step]
    rw [List.getElem?_append]
    split
    · rfl
    · next beyond =>
      rw [List.getElem?_eq_none (Nat.le_of_not_lt beyond)]
      simp [List.getElem?_singleton, new.symm]

/-- A call that changes without success keeps the invariant. -/
theorem Sound.of_set {w w' : SharedSession σ} (sound : w.Sound) {i : Nat} {f f' : Flight}
    (flight : w.flights[i]? = some f) (flights_eq : w'.flights = w.flights.set i f')
    (coherent : f'.Coherent) (readFrom : f'.ReadFrom w.session)
    (unchanged : ∀ r, f.Succeeded r ∨ f'.Succeeded r → f' = f)
    (edition_eq : w'.session.edition = w.session.edition)
    (document_eq : w'.session.document = w.session.document)
    (transcript_eq : w'.session.transcript = w.session.transcript) (swaps_eq : w'.swaps = w.swaps) :
    w'.Sound := by
  obtain ⟨bound, -⟩ := List.getElem?_eq_some_iff.1 flight
  refine sound.of_quiet ?_ ?_ edition_eq document_eq transcript_eq swaps_eq ?_
  · intro g mem
    rw [flights_eq] at mem
    rcases List.mem_or_eq_of_mem_set mem with old | rfl
    · exact sound.coherent g old
    · exact coherent
  · intro g mem
    rw [flights_eq] at mem
    rcases List.mem_or_eq_of_mem_set mem with old | rfl
    · exact sound.readFrom g old
    · exact readFrom
  · intro j g r ok
    rw [flights_eq]
    by_cases same : i = j
    · subst same
      rw [List.getElem?_set_self bound, flight]
      constructor
      · rintro ⟨⟩
        rw [unchanged r (.inr ok)]
      · rintro ⟨⟩
        rw [unchanged r (.inl ok)]
    · rw [List.getElem?_set_ne same]

/-- An answer keeps the invariant. -/
theorem Sound.answer [KeyValueStore σ] {w : SharedSession σ} (sound : w.Sound) (i : Nat)
    (a : Answer) : (w.step (.answer i a)).Sound := by
  cases flight : w.flights[i]? with
  | none => rwa [(step_eq_self flight).1]
  | some f =>
    have mem := List.mem_of_getElem? flight
    rw [step_answer flight]
    refine sound.of_set flight rfl (sound.coherent f mem).hear ?_ ?_ rfl rfl rfl rfl
    · simpa [Flight.ReadFrom] using sound.readFrom f mem
    · rintro r (before | after)
      · exact before.hear_eq
      · exact after.of_hear.hear_eq

/-- A replacement by hand keeps the invariant. -/
theorem Sound.replace [KeyValueStore σ] {w : SharedSession σ} (sound : w.Sound) (d : Document) :
    (w.step (.replace d)).Sound := by
  have swaps_eq : (w.step (.replace d)).swaps = w.swaps ++ [⟨none, w.session.document, d⟩] := by
    exact swaps_record (w.session.edition_replace d)
  have makers_eq : (w.step (.replace d)).makers = w.makers := by
    simp [makers, swaps_eq]
  constructor
  case coherent => exact sound.coherent
  case readFrom =>
    intro f mem
    exact Flight.ReadFrom.past (sound.readFrom f mem) (w.session.edition_replace d)
  case edition =>
    rw [swaps_eq, List.length_append, sound.edition]
    exact (w.session.edition_replace d).symm
  case logged =>
    intro i f r flight ok
    rw [swaps_eq]
    exact sound.logged_append flight ok _
  case succeeded =>
    rw [makers_eq]
    exact sound.succeeded
  case once =>
    rw [makers_eq]
    exact sound.once
  case transcript =>
    have old : w.swaps.flatMap (w.step (.replace d)).blockOf = w.swaps.flatMap w.blockOf :=
      flatMap_blockOf_congr fun i maker => rfl
    rw [swaps_eq, List.flatMap_append, old, ← sound.transcript]
    simp [step, record, blockOf]

/-- A call that succeeds keeps the invariant. -/
theorem Sound.shows {w w' : SharedSession σ} (sound : w.Sound) {i : Nat} {f : Flight}
    {r : Revision} {change : ChangeInProgress} (flight : w.flights[i]? = some f)
    (call_eq : f.call = .recording r change)
    (current : r.base.all (· = w.session.edition) = true)
    (flights_eq : w'.flights = w.flights.set i { f with call := .over (.ok r) })
    (swaps_eq : w'.swaps = w.swaps ++ [⟨some i, w.session.document, r.document⟩])
    (edition_eq : w'.session.edition = w.session.edition + 1)
    (transcript_eq : w'.session.transcript = w.session.transcript ++ r.messages) : w'.Sound := by
  obtain ⟨bound, -⟩ := List.getElem?_eq_some_iff.1 flight
  have mem := List.mem_of_getElem? flight
  have recorded : r.base = f.base ∧ r.messages = f.block := by
    have coherent := sound.coherent f mem
    rwa [Flight.Coherent, call_eq] at coherent
  have makers_eq : w'.makers = w.makers ++ [i] := by
    simp [makers, swaps_eq]
  have fresh := sound.not_mem_makers flight call_eq
  have flight_self : w'.flights[i]? = some { f with call := .over (.ok r) } := by
    rw [flights_eq, List.getElem?_set_self bound]
  have flight_ne : ∀ {j}, j ≠ i → w'.flights[j]? = w.flights[j]? := by
    intro j other
    rw [flights_eq, List.getElem?_set_ne other.symm]
  constructor
  case coherent =>
    intro g mem'
    rw [flights_eq] at mem'
    rcases List.mem_or_eq_of_mem_set mem' with old | rfl
    · exact sound.coherent g old
    · exact recorded
  case readFrom =>
    intro g mem'
    rw [flights_eq] at mem'
    rcases List.mem_or_eq_of_mem_set mem' with old | rfl
    · exact (sound.readFrom g old).past edition_eq
    · exact Flight.ReadFrom.past (f := { f with call := .over (.ok r) }) (sound.readFrom f mem)
        edition_eq
  case edition =>
    rw [swaps_eq, List.length_append, sound.edition, edition_eq]
    rfl
  case logged =>
    intro j g r' flight' ok
    rw [swaps_eq]
    by_cases same : j = i
    · subst same
      obtain rfl := Option.some.inj (flight_self.symm.trans flight')
      obtain rfl : r = r' := by simpa [Flight.Succeeded] using ok
      refine ⟨w.swaps.length, w.session.document, by simp, fun asks => ?_⟩
      -- the edition is still the one that the call read
      have base : r.base = some f.edition := by
        rw [recorded.1, Flight.base, if_pos asks]
      have edition : f.edition = w.session.edition := by simpa [base] using current
      exact ⟨sound.edition.trans edition.symm, ((sound.readFrom f mem).2 edition).symm⟩
    · rw [flight_ne same] at flight'
      exact sound.logged_append flight' ok _
  case succeeded =>
    intro j maker
    rw [makers_eq, List.mem_append, List.mem_singleton] at maker
    rcases maker with old | rfl
    · have other : j ≠ i := by
        rintro rfl
        exact fresh old
      rw [flight_ne other]
      exact sound.succeeded old
    · exact ⟨_, r, flight_self, rfl⟩
  case once =>
    rw [makers_eq, List.nodup_append]
    refine ⟨sound.once, by simp, ?_⟩
    intro j old k new
    obtain rfl := List.mem_singleton.1 new
    rintro rfl
    exact fresh old
  case transcript =>
    have old : w.swaps.flatMap w'.blockOf = w.swaps.flatMap w.blockOf := by
      refine flatMap_blockOf_congr fun j maker => flight_ne ?_
      rintro rfl
      exact fresh maker
    rw [transcript_eq, swaps_eq, List.flatMap_append, old, sound.transcript, recorded.2]
    simp [blockOf, flight_self, Flight.block]

/-- A call that goes on without success keeps the invariant, whatever becomes of the history. -/
theorem Sound.goesOn {w : SharedSession σ} (sound : w.Sound) {i : Nat} {f : Flight} {call : Call}
    (flight : w.flights[i]? = some f) (history : History σ)
    (coherent : { f with call := call }.Coherent)
    (unchanged : ∀ r, f.call = .over (.ok r) ∨ call = .over (.ok r) → call = f.call) :
    Sound { w.record (some i) { w.session with history := history } with
      flights := w.flights.set i { f with call := call } } := by
  refine sound.of_set flight rfl coherent (sound.readFrom f (List.mem_of_getElem? flight)) ?_
    rfl rfl rfl (by simp [record])
  intro r ok
  rw [unchanged r ok]

/-- A call that goes on keeps the invariant. -/
theorem Sound.resume [KeyValueStore σ] {w : SharedSession σ} (sound : w.Sound) (i : Nat) :
    (w.step (.resume i)).Sound := by
  cases flight : w.flights[i]? with
  | none => rwa [(step_eq_self flight).2]
  | some f =>
    have coherent := sound.coherent f (List.mem_of_getElem? flight)
    have spec := f.call.step_spec w.session
    rw [step_resume flight]
    generalize f.call.step w.session = out at spec ⊢
    obtain ⟨call, s⟩ := out
    generalize call_eq : f.call = c at spec
    cases spec with
    | waits _ _ _ =>
      subst call_eq
      exact sound.goesOn flight w.session.history coherent fun _ _ => rfl
    | found stamp id =>
      have quiet : f.request.asksService = false := by
        rwa [Flight.Coherent, call_eq] at coherent
      refine sound.goesOn flight w.session.history ?_ ?_
      · refine Flight.coherent_of_ofRevision rfl fun r made => ?_
        obtain ⟨snapshot, d, -, -, rfl⟩ := Session.restored_eq_ok_iff.1 made
        have base : Flight.base { f with call := .ofRevision (w.session.restored stamp id) } = none :=
          Flight.base_of_not_asksService quiet
        exact ⟨base.symm, (Flight.block_of_not_asksService quiet).symm⟩
      · rintro r (before | after)
        · simp [call_eq] at before
        · exact absurd after (Call.ofRevision_ne_ok _ r)
    | records step_eq unfinished =>
      rw [Flight.Coherent, call_eq] at coherent
      exact sound.goesOn flight _ coherent (by simp [call_eq])
    | fails step_eq failed => exact sound.goesOn flight _ trivial (by simp [call_eq])
    | late step_eq recorded past => exact sound.goesOn flight _ trivial (by simp [call_eq])
    | @shows r change change' history effect step_eq recorded current =>
      have edition_eq := Session.edition_showing { w.session with history := history } r
      exact sound.shows flight call_eq current rfl (swaps_record edition_eq) edition_eq rfl

/-- Every event keeps the invariant. -/
theorem Sound.step [KeyValueStore σ] {w : SharedSession σ} (sound : w.Sound) :
    ∀ e, (w.step e).Sound
  | .begin stamp request => sound.begin stamp request
  | .replace d => sound.replace d
  | .answer i a => sound.answer i a
  | .resume i => sound.resume i
  | .renew _ => sound.of_quiet sound.coherent sound.readFrom rfl rfl rfl rfl fun _ => Iff.rfl

/-! ## Runs -/

/-- Whether a state comes before another one : the log goes on, and calls stay what they are. -/
structure Precedes (w w' : SharedSession σ) : Prop where
  swaps : w.swaps <+: w'.swaps
  flights : ∀ {i : Nat} {f : Flight}, w.flights[i]? = some f →
    ∃ f', w'.flights[i]? = some f' ∧ f'.edition = f.edition ∧ f'.document = f.document

theorem Precedes.refl (w : SharedSession σ) : w.Precedes w :=
  ⟨List.prefix_refl _, fun flight => ⟨_, flight, rfl, rfl⟩⟩

theorem Precedes.trans {w w' w'' : SharedSession σ} (first : w.Precedes w')
    (second : w'.Precedes w'') : w.Precedes w'' := by
  refine ⟨first.swaps.trans second.swaps, fun flight => ?_⟩
  obtain ⟨f', flight', edition', document'⟩ := first.flights flight
  obtain ⟨f'', flight'', edition'', document''⟩ := second.flights flight'
  exact ⟨f'', flight'', edition''.trans edition', document''.trans document'⟩

/-- Changing one call leaves the others alone. -/
theorem precedes_set {w w' : SharedSession σ} {i : Nat} {f f' : Flight}
    (flight : w.flights[i]? = some f) (swaps : w.swaps <+: w'.swaps)
    (flights_eq : w'.flights = w.flights.set i f') (edition_eq : f'.edition = f.edition)
    (document_eq : f'.document = f.document) : w.Precedes w' := by
  refine ⟨swaps, fun {j g} flight' => ?_⟩
  rw [flights_eq]
  by_cases same : i = j
  · subst same
    obtain rfl := Option.some.inj (flight.symm.trans flight')
    obtain ⟨bound, -⟩ := List.getElem?_eq_some_iff.1 flight
    exact ⟨f', List.getElem?_set_self bound, edition_eq, document_eq⟩
  · exact ⟨g, by rw [List.getElem?_set_ne same, flight'], rfl, rfl⟩

/-- The log grows at its end. -/
theorem swaps_prefix_record (w : SharedSession σ) (maker : Option Nat) (s : Session σ) :
    w.swaps <+: (w.record maker s).swaps := by
  unfold record
  split
  · exact List.prefix_refl _
  · exact List.prefix_append _ _

theorem precedes_step [KeyValueStore σ] (w : SharedSession σ) : ∀ e, w.Precedes (w.step e)
  | .begin stamp request => by
    refine ⟨List.prefix_refl _, fun {i f} flight => ⟨f, ?_, rfl, rfl⟩⟩
    obtain ⟨bound, -⟩ := List.getElem?_eq_some_iff.1 flight
    rw [← flight]
    exact List.getElem?_append_left bound
  | .replace d => ⟨w.swaps_prefix_record _ _, fun flight => ⟨_, flight, rfl, rfl⟩⟩
  | .answer i a => by
    cases flight : w.flights[i]? with
    | none =>
      rw [(step_eq_self flight).1]
      exact .refl w
    | some f =>
      rw [step_answer flight]
      exact precedes_set flight (List.prefix_refl _) rfl (f.edition_hear _ _)
        (f.document_hear _ _)
  | .resume i => by
    cases flight : w.flights[i]? with
    | none =>
      rw [(step_eq_self flight).2]
      exact .refl w
    | some f =>
      rw [step_resume flight]
      exact precedes_set flight (w.swaps_prefix_record _ _) rfl rfl rfl
  | .renew _ => ⟨List.prefix_refl _, fun flight => ⟨_, flight, rfl, rfl⟩⟩

theorem precedes_run [KeyValueStore σ] :
    ∀ (w : SharedSession σ) (events : List SessionEvent), w.Precedes (w.run events)
  | w, [] => .refl w
  | w, e :: rest => (w.precedes_step e).trans ((w.step e).precedes_run rest)

/-- A call that is going to succeed with a document for an edition finds that edition shown as
long as it is under way. -/
theorem Sound.edition_of_underWay {w w' : SharedSession σ} (sound : w.Sound)
    (precedes : w.Precedes w') {i : Nat} {f : Flight} {swap : Swap}
    (flight : w.flights[i]? = some f) (underWay : f.UnderWay)
    (logged : w'.swaps[f.edition]? = some swap) (maker : swap.maker = some i) :
    w.session.edition = f.edition := by
  obtain ⟨le, -⟩ := sound.readFrom f (List.mem_of_getElem? flight)
  refine Nat.le_antisymm (Nat.le_of_not_lt fun lt => ?_) le
  -- otherwise the replacement is in the log already, and the call is over
  have bound : f.edition < w.swaps.length := sound.edition ▸ lt
  obtain ⟨rest, swaps_eq⟩ := precedes.swaps
  rw [← swaps_eq, List.getElem?_append_left bound] at logged
  have made : i ∈ w.makers :=
    List.mem_filterMap.2 ⟨swap, List.mem_of_getElem? logged, maker⟩
  obtain ⟨g, r, flight', ok⟩ := sound.succeeded made
  obtain rfl := Option.some.inj (flight.symm.trans flight')
  exact underWay _ ok

/-- Every run keeps the invariant. -/
theorem sound_run [KeyValueStore σ] (policy : IngestPolicy) (strategies : List Strategy)
    (document : Document) (history : History σ) (events : List SessionEvent) :
    ((ofSession (.start policy strategies document history)).run events).Sound :=
  run_induction (fun _ e sound => sound.step e) events (sound_ofSession rfl rfl)

/-- No accepted edit overwrites a replacement that it did not see. However calls are interleaved,
one that asked the service and succeeded replaced the very edition that it had read, the one with
the document that it had sent, and no other document was shown at any time while it was under
way. The transcript consists of the blocks of the successful calls in the order of their
replacements; each successful call made exactly one, and no other call made any. -/
theorem accepted_edits_replace_what_they_read [KeyValueStore σ] (policy : IngestPolicy)
    (strategies : List Strategy) (document : Document) (history : History σ)
    (events : List SessionEvent) :
    let start := ofSession (.start policy strategies document history)
    let w := start.run events
    (∀ (i : Nat) (f : Flight) (r : Revision), w.flights[i]? = some f →
      f.request.asksService = true → f.Succeeded r →
      w.swaps[f.edition]? = some ⟨some i, f.document, r.document⟩ ∧
      ∀ (before : List SessionEvent) (f' : Flight), before <+: events →
        (start.run before).flights[i]? = some f' → f'.UnderWay →
        (start.run before).session.edition = f.edition ∧
          (start.run before).session.document = f.document) ∧
    w.session.transcript = w.swaps.flatMap w.blockOf ∧
    w.makers.Nodup ∧ ∀ i, i ∈ w.makers ↔ ∃ f r, w.flights[i]? = some f ∧ f.Succeeded r := by
  intro start w
  have sound : w.Sound := sound_run policy strategies document history events
  refine ⟨?_, sound.transcript, sound.once, fun i => ⟨sound.succeeded, ?_⟩⟩
  · intro i f r flight asks ok
    obtain ⟨n, former, swap, read⟩ := sound.logged flight ok
    obtain ⟨rfl, rfl⟩ := read asks
    refine ⟨swap, ?_⟩
    rintro before f' ⟨after, rfl⟩ flight' underWay
    have sound' : (start.run before).Sound :=
      sound_run policy strategies document history before
    have precedes : (start.run before).Precedes w := by
      rw [show w = (start.run before).run after from run_append start before after]
      exact precedes_run _ _
    obtain ⟨g, flight'', edition_eq, document_eq⟩ := precedes.flights flight'
    obtain rfl := Option.some.inj (flight.symm.trans flight'')
    rw [edition_eq] at swap
    have shown := sound'.edition_of_underWay precedes flight' underWay swap rfl
    rw [edition_eq, document_eq]
    exact ⟨shown, ((sound'.readFrom f' (List.mem_of_getElem? flight')).2 shown.symm).symm⟩
  · rintro ⟨f, r, flight, ok⟩
    obtain ⟨n, former, swap, -⟩ := sound.logged flight ok
    exact List.mem_filterMap.2 ⟨_, List.mem_of_getElem? swap, rfl⟩

/-- What happens when two edits are asked for together and answered one after the other. -/
def twoEdits : List SessionEvent :=
  let form : Document := .ofRoot (.group (.form ⟨"root"⟩) [])
  let reply : Answer := .edit (.ok ⟨form.toJson, some "Done"⟩)
  [.begin ⟨"first", ⟨0, 0⟩⟩ (.chat "Empty it"), .begin ⟨"second", ⟨0, 0⟩⟩ (.chat "Clear it"),
    .answer 0 reply, .resume 0, .resume 0, .resume 0, .resume 0, .answer 1 reply]

/-- The sample after two edits were asked for together. -/
def afterTwoEdits : SharedSession MemoryStore :=
  (ofSession (.start ⟨false, true, .structural⟩ Strategy.standard Document.sample
    (History.ofStore MemoryStore.empty 30))).run twoEdits

/-- Of two edits of one edition the one that is answered later is discarded. -/
theorem later_of_two_edits_is_discarded :
    (∃ f r, afterTwoEdits.flights[0]? = some f ∧ f.request.asksService = true ∧ f.Succeeded r ∧
      afterTwoEdits.swaps[f.edition]? = some ⟨some 0, f.document, r.document⟩) ∧
    afterTwoEdits.flights[1]?.map Flight.call = some (.over (.error .superseded)) ∧
    afterTwoEdits.session.transcript = [.ofUser "Empty it", ⟨.assistant, "Done"⟩] := by
  have edits := accepted_edits_replace_what_they_read ⟨false, true, .structural⟩
    Strategy.standard Document.sample (History.ofStore MemoryStore.empty 30) twoEdits
  have made : afterTwoEdits.makers = [0] := rfl
  have request : afterTwoEdits.flights[0]?.map Flight.request = some (.chat "Empty it") := rfl
  obtain ⟨f, r, flight, ok⟩ := (edits.2.2.2 0).1 (made ▸ List.mem_singleton_self 0)
  have asks : f.request.asksService = true := by
    rw [show afterTwoEdits.flights[0]? = some f from flight] at request
    simp [Option.some.inj request, Request.asksService]
  exact ⟨⟨f, r, flight, asks, ok, (edits.1 0 f r flight asks ok).1⟩, rfl, rfl⟩

end SharedSession

end Wireframe
