import Wireframe.Json.Reader
import Wireframe.Proofs.Json.Scanning
import Wireframe.Proofs.Json.Structure

/-!
# Reading written values

A written value is read back as it was, or not at all : the reader refuses it exactly if it is
nested beyond the bound (`Json.read?_compact`). What the reader gives for any text keeps within the
bound, and its numbers are valid (`Json.of_read?`).
-/

namespace Wireframe

namespace Token

theorem separated_cons {t : Token} (h : t.isBare = false) {ts : List Token}
    (separated : Separated ts) : Separated (t :: ts) := by
  refine List.isChain_cons.2 ⟨fun u _ bare => ?_, separated⟩
  rw [h] at bare
  cases bare

theorem separated_singleton_append {t : Token} {ts : List Token} (separated : Separated ts)
    (next : ∀ u ∈ ts.head?, u.isBare = false) : Separated ([t] ++ ts) :=
  List.isChain_cons.2 ⟨fun u head _ => next u head, separated⟩

end Token

namespace Json

open Token

/-! ## The tokens of a value -/

/-- Further items begin with a comma or a bracket. -/
theorem head?_tokensMoreItems (items : List Json) (rest : List Token) :
    ∀ t ∈ (tokensMoreItems items ++ rest).head?, t.isBare = false := by
  cases items <;> simp [tokensMoreItems, isBare]

/-- Further members begin with a comma or a brace. -/
theorem head?_tokensMoreMembers (members : Members) (rest : List Token) :
    ∀ t ∈ (tokensMoreMembers members ++ rest).head?, t.isBare = false := by
  cases members <;> simp [tokensMoreMembers, isBare]

/-- Whether a value puts no bare tokens side by side, whatever follows it that is not bare. -/
def KeepsApart (j : Json) : Prop :=
  ∀ rest : List Token, Separated rest → (∀ t ∈ rest.head?, t.isBare = false) →
    Separated (tokens j ++ rest)

theorem separated_tokensMoreItems {rest : List Token} (separated : Separated rest) :
    ∀ {items : List Json}, (∀ item ∈ items, KeepsApart item) →
      Separated (tokensMoreItems items ++ rest)
  | [], _ => separated_cons rfl separated
  | item :: items, each => by
    have later := separated_tokensMoreItems separated
      fun i mem => each i (List.mem_cons_of_mem _ mem)
    rw [tokensMoreItems, List.cons_append, List.append_assoc]
    exact separated_cons rfl (each item (by simp) _ later (head?_tokensMoreItems _ _))

theorem separated_tokensMoreMembers {rest : List Token} (separated : Separated rest) :
    ∀ {members : Members}, (∀ m ∈ members, KeepsApart m.2) →
      Separated (tokensMoreMembers members ++ rest)
  | [], _ => separated_cons rfl separated
  | (name, value) :: members, each => by
    have later := separated_tokensMoreMembers separated
      fun m mem => each m (List.mem_cons_of_mem _ mem)
    have first := each (name, value) (by simp) _ later (head?_tokensMoreMembers _ _)
    rw [tokensMoreMembers, List.cons_append, List.cons_append, List.cons_append, List.append_assoc]
    exact separated_cons rfl (separated_cons rfl (separated_cons rfl first))

/-- All values keep bare tokens apart. -/
theorem keepsApart (j : Json) : KeepsApart j := by
  induction j using Json.induction with
  | null | bool | number | string =>
    intro rest separated next
    rw [tokens]
    exact separated_singleton_append separated next
  | array items ih =>
    intro rest separated next
    rw [tokens, List.cons_append]
    refine separated_cons rfl ?_
    cases items with
    | nil => exact separated_cons rfl separated
    | cons item items =>
      have later := separated_tokensMoreItems separated
        fun i mem => ih i (List.mem_cons_of_mem _ mem)
      rw [tokensItems, List.append_assoc]
      exact ih item (by simp) _ later (head?_tokensMoreItems _ _)
  | object members ih =>
    intro rest separated next
    rw [tokens, List.cons_append]
    refine separated_cons rfl ?_
    cases members with
    | nil => exact separated_cons rfl separated
    | cons m members =>
      have later := separated_tokensMoreMembers separated
        fun m mem => ih m (List.mem_cons_of_mem _ mem)
      have first := ih m (by simp) _ later (head?_tokensMoreMembers _ _)
      rw [tokensMembers, List.cons_append, List.cons_append, List.append_assoc]
      exact separated_cons rfl (separated_cons rfl first)

/-! ## Reading tokens -/

namespace Reader

/-- Whether a value is read wherever its nesting leaves it within the bound, and refused
elsewhere. -/
def Takes (bound : Nat) (j : Json) : Prop :=
  ∀ (stack : List Frame), stack.length ≤ bound → ∀ rest : List Token,
    (tokens j ++ rest).foldlM (step? bound) (.awaitValue stack) =
      if stack.length + j.nesting ≤ bound then rest.foldlM (step? bound) (place j stack) else none

variable {bound : Nat} {stack : List Frame}

/-- A token that the reader takes is behind it. -/
theorem foldlM_cons_of_step? {reader : Reader} {t : Token} (next : Reader)
    (step : step? bound reader t = some next) (ts : List Token) :
    (t :: ts).foldlM (step? bound) reader = ts.foldlM (step? bound) next := by
  rw [List.foldlM_cons, step]
  rfl

/-- An item is read into an open array. -/
theorem Takes.item {item : Json} (h : Takes bound item) (room : stack.length < bound)
    (done : List Json) (rest : List Token) :
    (tokens item ++ rest).foldlM (step? bound) (.awaitValue (.array done :: stack)) =
      if stack.length + 1 + item.nesting ≤ bound then
        rest.foldlM (step? bound) (.awaitEnd (.array (item :: done)) stack)
      else none :=
  h (.array done :: stack) room rest

/-- A member is read into an open object behind its name. -/
theorem Takes.member {value : Json} (h : Takes bound value) (room : stack.length < bound)
    (done : Members) (name : String) (rest : List Token) :
    (.colon :: (tokens value ++ rest)).foldlM (step? bound) (.awaitColon stack done name) =
      if stack.length + 1 + value.nesting ≤ bound then
        rest.foldlM (step? bound) (.awaitEnd (.object ((name, value) :: done) name) stack)
      else none := by
  rw [foldlM_cons_of_step? (.awaitValue (.object done name :: stack)) rfl]
  exact h (.object done name :: stack) room rest

/-- Further items are read behind those of an open array. -/
theorem foldlM_tokensMoreItems (room : stack.length < bound) (rest : List Token) :
    ∀ {items : List Json}, (∀ item ∈ items, Takes bound item) → ∀ done : List Json,
      (tokensMoreItems items ++ rest).foldlM (step? bound) (.awaitEnd (.array done) stack) =
        if stack.length + 1 + nestingItems items ≤ bound then
          rest.foldlM (step? bound) (place (.array (done.reverse ++ items)) stack)
        else none
  | [], _, done => by
    rw [tokensMoreItems, nestingItems, if_pos (by omega), List.append_nil]
    rfl
  | item :: items, each, done => by
    have later := foldlM_tokensMoreItems room rest
      (fun i mem => each i (List.mem_cons_of_mem _ mem)) (item :: done)
    rw [tokensMoreItems, List.cons_append, List.append_assoc,
      foldlM_cons_of_step? (.awaitValue (.array done :: stack)) rfl,
      (each item (by simp)).item room, later, nestingItems, List.reverse_cons, List.append_assoc,
      List.singleton_append]
    split_ifs <;> first | rfl | omega

/-- Further members are read behind those of an open object. -/
theorem foldlM_tokensMoreMembers (room : stack.length < bound) (rest : List Token) :
    ∀ {members : Members}, (∀ m ∈ members, Takes bound m.2) → ∀ (done : Members) (name : String),
      (tokensMoreMembers members ++ rest).foldlM (step? bound)
          (.awaitEnd (.object done name) stack) =
        if stack.length + 1 + nestingMembers members ≤ bound then
          rest.foldlM (step? bound) (place (.object (done.reverse ++ members)) stack)
        else none
  | [], _, done, name => by
    rw [tokensMoreMembers, nestingMembers, if_pos (by omega), List.append_nil]
    rfl
  | (next, value) :: members, each, done, name => by
    have later := foldlM_tokensMoreMembers room rest
      (fun m mem => each m (List.mem_cons_of_mem _ mem)) ((next, value) :: done) next
    have first : Takes bound value := each (next, value) (by simp)
    rw [tokensMoreMembers, List.cons_append, List.cons_append, List.cons_append, List.append_assoc,
      foldlM_cons_of_step? (.awaitNextName stack done) rfl,
      foldlM_cons_of_step? (.awaitColon stack done next) rfl,
      first.member room, later, nestingMembers, List.reverse_cons, List.append_assoc,
      List.singleton_append]
    split_ifs <;> first | rfl | omega

/-- Where an item may stand it is read as a value. -/
theorem foldlM_awaitItem (item : Json) (rest : List Token) :
    (tokens item ++ rest).foldlM (step? bound) (.awaitItem stack) =
      (tokens item ++ rest).foldlM (step? bound) (.awaitValue (.array [] :: stack)) := by
  obtain ⟨t, ts, tokens_eq, opens⟩ := exists_tokens_eq_cons item
  have same : step? bound (.awaitItem stack) t =
      step? bound (.awaitValue (.array [] :: stack)) t := by
    cases t <;> first | rfl | exact absurd rfl opens
  rw [tokens_eq, List.cons_append, List.foldlM_cons, same, List.foldlM_cons]

/-- Values are read. -/
theorem takes (j : Json) : Takes bound j := by
  induction j using Json.induction with
  | null | bool | number | string =>
    intro stack within rest
    rw [tokens, if_pos (by simpa [nesting] using within)]
    rfl
  | array items ih =>
    intro stack within rest
    by_cases room : stack.length < bound
    · have opening : step? bound (.awaitValue stack) .openArray = some (.awaitItem stack) :=
        if_pos room
      rw [tokens, List.cons_append, foldlM_cons_of_step? _ opening, nesting]
      cases items with
      | nil =>
        rw [nestingItems, if_pos (by omega)]
        rfl
      | cons item items =>
        rw [tokensItems, List.append_assoc, foldlM_awaitItem, (ih item (by simp)).item room,
          foldlM_tokensMoreItems room rest fun i mem => ih i (List.mem_cons_of_mem _ mem),
          nestingItems]
        simp only [List.reverse_singleton, List.singleton_append]
        split_ifs <;> first | rfl | omega
    · have refused : step? bound (.awaitValue stack) .openArray = none := if_neg room
      rw [tokens, List.cons_append, List.foldlM_cons, refused, nesting, if_neg (by omega)]
      rfl
  | object members ih =>
    intro stack within rest
    by_cases room : stack.length < bound
    · have opening : step? bound (.awaitValue stack) .openObject = some (.awaitName stack) :=
        if_pos room
      rw [tokens, List.cons_append, foldlM_cons_of_step? _ opening, nesting]
      cases members with
      | nil =>
        rw [nestingMembers, if_pos (by omega)]
        rfl
      | cons m members =>
        obtain ⟨name, value⟩ := m
        have first : Takes bound value := ih (name, value) (by simp)
        rw [tokensMembers, List.cons_append, List.cons_append, List.append_assoc,
          foldlM_cons_of_step? (.awaitColon stack [] name) rfl, first.member room,
          foldlM_tokensMoreMembers room rest fun m mem => ih m (List.mem_cons_of_mem _ mem),
          nestingMembers]
        simp only [List.reverse_singleton, List.singleton_append]
        split_ifs <;> first | rfl | omega
    · have refused : step? bound (.awaitValue stack) .openObject = none := if_neg room
      rw [tokens, List.cons_append, List.foldlM_cons, refused, nesting, if_neg (by omega)]
      rfl

end Reader

/-- A written value is read back, unless it is nested beyond the bound. -/
theorem read?_compact {j : Json} (back : ∀ n, j.HasNumber n → n.ReadsBack) (bound : Nat) :
    read? bound j.compact = if j.nesting ≤ bound then some j else none := by
  have each : ∀ t ∈ tokens j, t.ReadsBack := by
    intro t mem
    cases t with
    | number n => exact back n mem
    | _ => trivial
  have separated : Separated (tokens j) := by
    have nothing : Separated [] := List.IsChain.nil
    simpa using j.keepsApart [] nothing (by simp)
  have taken := (Reader.takes j : Reader.Takes bound j) [] (Nat.zero_le _) []
  rw [List.append_nil] at taken
  rw [read?, compact, compactChars, String.toList_ofList, feed?_flatMap_chars separated each, taken]
  simp only [List.length_nil, Nat.zero_add]
  split_ifs <;> rfl

/-- A written value without repeated names is parsed, unless it is nested beyond the bound. -/
theorem IsSettled.parse?_compact {j : Json} (settled : j.IsSettled)
    (back : ∀ n, j.HasNumber n → n.ReadsBack) :
    parse? j.compact = if j.nesting ≤ nestingBound then some j else none := by
  rw [parse?, read?_compact back]
  split_ifs
  · rw [Option.map_some, settled.settled_eq]
  · rfl

/-! ## What is read -/

/-- Values at a level that keep within the bound, and whose numbers are valid. -/
structure Fits (bound level : Nat) (j : Json) : Prop where
  within : level + j.nesting ≤ bound
  valid : ∀ n, j.HasNumber n → n.Valid

namespace Fits

variable {bound level : Nat}

/-- A scalar fits where there is a level at all. -/
theorem scalar {j : Json} (h : j.nesting = 0) (level_le : level ≤ bound)
    (valid : ∀ n, j.HasNumber n → n.Valid) : Fits bound level j :=
  ⟨by omega, valid⟩

theorem array {items : List Json} (room : level < bound)
    (each : ∀ item ∈ items, Fits bound (level + 1) item) : Fits bound level (.array items) := by
  obtain ⟨rest, rfl⟩ : ∃ rest, bound = level + rest + 1 := ⟨bound - level - 1, by omega⟩
  constructor
  · have nested : nesting (.array items) ≤ rest + 1 :=
      nesting_array_le_iff.2 fun item mem => by
        have := (each item mem).within
        omega
    omega
  · intro n has
    obtain ⟨item, mem, has⟩ := hasNumber_array.1 has
    exact (each item mem).valid n has

theorem object {members : Members} (room : level < bound)
    (each : ∀ m ∈ members, Fits bound (level + 1) m.2) : Fits bound level (.object members) := by
  obtain ⟨rest, rfl⟩ : ∃ rest, bound = level + rest + 1 := ⟨bound - level - 1, by omega⟩
  constructor
  · have nested : nesting (.object members) ≤ rest + 1 :=
      nesting_object_le_iff.2 fun m mem => by
        have := (each m mem).within
        omega
    omega
  · intro n has
    obtain ⟨m, mem, has⟩ := hasNumber_object.1 has
    exact (each m mem).valid n has

end Fits

/-- The finished parts of an open array or object. -/
def Frame.values : Frame → List Json
  | array items => items
  | object members _ => members.map Prod.snd

/-- Open arrays and objects within the bound, whose finished parts fit. -/
def Frame.AllFit (bound : Nat) : List Frame → Prop
  | [] => True
  | frame :: stack =>
    stack.length < bound ∧ (∀ j ∈ frame.values, Fits bound (stack.length + 1) j) ∧
      AllFit bound stack

theorem Frame.AllFit.length_le {bound : Nat} : ∀ {stack : List Frame}, AllFit bound stack →
    stack.length ≤ bound
  | [], _ => Nat.zero_le _
  | _ :: _, h => h.1

namespace Reader

/-- Readers whose open and finished parts fit. -/
def Fits (bound : Nat) : Reader → Prop
  | awaitValue stack => Frame.AllFit bound stack
  | awaitItem stack => Frame.AllFit bound (.array [] :: stack)
  | awaitName stack => Frame.AllFit bound (.array [] :: stack)
  | awaitNextName stack members => Frame.AllFit bound (.object members "" :: stack)
  | awaitColon stack members name => Frame.AllFit bound (.object members name :: stack)
  | awaitEnd frame stack => Frame.AllFit bound (frame :: stack)
  | complete j => Json.Fits bound 0 j

variable {bound : Nat}

theorem fits_place {j : Json} {stack : List Frame} (stack_fits : Frame.AllFit bound stack)
    (j_fits : Json.Fits bound stack.length j) : (place j stack).Fits bound := by
  match stack, stack_fits, j_fits with
  | [], _, j_fits => exact j_fits
  | .array items :: stack, ⟨room, values, others⟩, j_fits =>
    exact ⟨room, List.forall_mem_cons.2 ⟨j_fits, values⟩, others⟩
  | .object members name :: stack, ⟨room, values, others⟩, j_fits =>
    exact ⟨room, List.forall_mem_cons.2 ⟨j_fits, values⟩, others⟩

/-- An array closed in a stack that fits. -/
theorem fits_close_array {items : List Json} {stack : List Frame}
    (h : Frame.AllFit bound (.array items :: stack)) :
    (place (.array items.reverse) stack).Fits bound :=
  fits_place h.2.2 <| .array h.1 fun item mem => h.2.1 item (List.mem_reverse.1 mem)

/-- An object closed in a stack that fits. -/
theorem fits_close_object {members : Members} {name : String} {stack : List Frame}
    (h : Frame.AllFit bound (.object members name :: stack)) :
    (place (.object members.reverse) stack).Fits bound :=
  fits_place h.2.2 <| .object h.1 fun m mem =>
    h.2.1 m.2 (List.mem_map_of_mem (List.mem_reverse.1 mem))

/-- What begins with a token fits, if the number that it may be is valid. -/
theorem fits_of_start? {stack : List Frame} {t : Token} {next : Reader}
    (valid : ∀ n, t = .number n → n.Valid) (stack_fits : Frame.AllFit bound stack)
    (h : start? bound stack t = some next) : next.Fits bound := by
  have level := stack_fits.length_le
  unfold start? at h
  split at h
  · cases h
    exact fits_place stack_fits (.scalar (by simp [nesting]) level (by simp [HasNumber, tokens]))
  · cases h
    exact fits_place stack_fits (.scalar (by simp [nesting]) level (by simp [HasNumber, tokens]))
  · next n =>
    cases h
    exact fits_place stack_fits
      (.scalar (by simp [nesting]) level fun m has => hasNumber_number.1 has ▸ valid n rfl)
  · cases h
    exact fits_place stack_fits (.scalar (by simp [nesting]) level (by simp [HasNumber, tokens]))
  · split_ifs at h with room
    cases h
    exact ⟨room, by simp [Frame.values], stack_fits⟩
  · split_ifs at h with room
    cases h
    exact ⟨room, by simp [Frame.values], stack_fits⟩
  · cases h

/-- One more token leaves a reader that fits. -/
theorem fits_of_step? {reader next : Reader} {t : Token} (valid : ∀ n, t = .number n → n.Valid)
    (fits : reader.Fits bound) (h : step? bound reader t = some next) : next.Fits bound := by
  unfold step? at h
  split at h
  · exact fits_of_start? valid fits h
  · cases h
    exact fits_close_array (show Frame.AllFit bound (.array [] :: _) from fits)
  · exact fits_of_start? valid fits h
  · cases h
    exact fits_close_object (show Frame.AllFit bound (.object [] "" :: _) from fits)
  · cases h
    exact fits
  · cases h
    exact fits
  · cases h
    exact fits
  · cases h
    exact fits
  · cases h
    exact fits_close_array fits
  · cases h
    exact fits
  · cases h
    exact fits_close_object fits
  · cases h

/-- So do many. -/
theorem fits_of_foldlM {ts : List Token} : ∀ {reader final : Reader},
    (∀ n, .number n ∈ ts → n.Valid) → reader.Fits bound →
      ts.foldlM (step? bound) reader = some final → final.Fits bound := by
  induction ts with
  | nil =>
    intro reader final _ fits h
    cases h
    exact fits
  | cons t ts ih =>
    intro reader final valid fits h
    rw [List.foldlM_cons] at h
    obtain ⟨next, step, h⟩ := Option.bind_eq_some_iff.1 h
    have number : ∀ n, t = .number n → n.Valid := fun n eq => valid n (by simp [eq])
    exact ih (fun n mem => valid n (List.mem_cons_of_mem _ mem)) (fits_of_step? number fits step) h

end Reader

/-- What is read keeps within the bound, and its numbers are valid. -/
theorem of_read? {bound : Nat} {text : String} {j : Json} (h : read? bound text = some j) :
    j.nesting ≤ bound ∧ ∀ n, j.HasNumber n → n.Valid := by
  obtain ⟨reader, fed, value_eq⟩ := Option.bind_eq_some_iff.1 h
  obtain ⟨ts, valid, folded⟩ := exists_tokens_of_feed? fed
  have fits := Reader.fits_of_foldlM valid (by trivial) folded
  cases reader with
  | complete value =>
    cases value_eq
    have fits : Fits bound 0 j := fits
    exact ⟨by simpa using fits.within, fits.valid⟩
  | _ => cases value_eq

end Json

end Wireframe
