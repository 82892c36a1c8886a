import Mathlib.Data.List.Chain
import Wireframe.Json.Printer

/-!
# Arrays and objects

Facts about a value follow from those about its items and members (`Json.induction`). What is
nested in a value and which numbers it has is told by its parts, and so is whether a repeated name
is left in it : `Json.settled` leaves none, and changes nothing where there is none.
-/

namespace Wireframe

namespace Json

/-- Induction from the items of arrays and the members of objects. -/
@[elab_as_elim]
theorem induction {P : Json → Prop} (null : P .null) (bool : ∀ value, P (.bool value))
    (number : ∀ value, P (.number value)) (string : ∀ value, P (.string value))
    (array : ∀ items, (∀ item ∈ items, P item) → P (.array items))
    (object : ∀ members, (∀ m ∈ members, P m.2) → P (.object members)) : ∀ j, P j
  | .null => null
  | .bool value => bool value
  | .number value => number value
  | .string value => string value
  | .array items => array items fun item mem =>
    have := List.sizeOf_lt_of_mem mem
    induction null bool number string array object item
  | .object members => object members fun m mem =>
    have := List.sizeOf_lt_of_mem mem
    induction null bool number string array object m.2
termination_by j => sizeOf j
decreasing_by
  · simp only [Json.array.sizeOf_spec]
    omega
  · obtain ⟨name, value⟩ := m
    simp only [Json.object.sizeOf_spec, Prod.mk.sizeOf_spec] at this ⊢
    omega

/-! ## Nesting -/

theorem nestingItems_le_iff {bound : Nat} :
    ∀ {items : List Json}, nestingItems items ≤ bound ↔ ∀ item ∈ items, nesting item ≤ bound
  | [] => by simp [nestingItems]
  | item :: rest => by
    rw [nestingItems, Nat.max_le, nestingItems_le_iff]
    simp

theorem nestingMembers_le_iff {bound : Nat} :
    ∀ {members : Members}, nestingMembers members ≤ bound ↔ ∀ m ∈ members, nesting m.2 ≤ bound
  | [] => by simp [nestingMembers]
  | (name, value) :: rest => by
    rw [nestingMembers, Nat.max_le, nestingMembers_le_iff]
    simp

theorem nesting_le_of_mem_items {items : List Json} {item : Json} (mem : item ∈ items) :
    nesting item ≤ nestingItems items :=
  nestingItems_le_iff.1 (Nat.le_refl _) item mem

theorem nesting_le_of_mem_members {members : Members} {m : String × Json} (mem : m ∈ members) :
    nesting m.2 ≤ nestingMembers members :=
  nestingMembers_le_iff.1 (Nat.le_refl _) m mem

/-- An array is nested no deeper than a bound if there is a level left for its items. -/
theorem nesting_array_le_iff {bound : Nat} {items : List Json} :
    nesting (.array items) ≤ bound + 1 ↔ ∀ item ∈ items, nesting item ≤ bound := by
  rw [nesting, Nat.add_le_add_iff_right, nestingItems_le_iff]

/-- An object is nested no deeper than a bound if there is a level left for its members. -/
theorem nesting_object_le_iff {bound : Nat} {members : Members} :
    nesting (.object members) ≤ bound + 1 ↔ ∀ m ∈ members, nesting m.2 ≤ bound := by
  rw [nesting, Nat.add_le_add_iff_right, nestingMembers_le_iff]

/-- An object is one level more than its deepest member. -/
theorem nesting_object_of_mem {members : Members} {m : String × Json} (mem : m ∈ members)
    (deepest : ∀ other ∈ members, nesting other.2 ≤ nesting m.2) :
    nesting (.object members) = nesting m.2 + 1 := by
  rw [nesting, Nat.le_antisymm (nestingMembers_le_iff.2 deepest) (nesting_le_of_mem_members mem)]

/-! ## Tokens -/

/-- Further items are each behind a comma. -/
theorem tokensMoreItems_eq : ∀ items : List Json, tokensMoreItems items =
    (items.flatMap fun item => .comma :: tokens item) ++ [.closeArray]
  | [] => rfl
  | item :: rest => by simp [tokensMoreItems, tokensMoreItems_eq rest]

/-- Further members are each behind a comma. -/
theorem tokensMoreMembers_eq : ∀ members : Members, tokensMoreMembers members =
    (members.flatMap fun m => .comma :: .string m.1 :: .colon :: tokens m.2) ++ [.closeObject]
  | [] => rfl
  | (name, value) :: rest => by simp [tokensMoreMembers, tokensMoreMembers_eq rest]

/-- A value is written with tokens, the first of which closes nothing. -/
theorem exists_tokens_eq_cons (j : Json) : ∃ t ts, tokens j = t :: ts ∧ t ≠ .closeArray := by
  cases j <;> exact ⟨_, _, by rw [tokens], by simp⟩

/-- Whether a number stands somewhere in a value. -/
def HasNumber (j : Json) (n : Number) : Prop :=
  .number n ∈ tokens j

theorem hasNumber_number {m n : Number} : (Json.number m).HasNumber n ↔ m = n := by
  simp [HasNumber, tokens, eq_comm]

/-- The numbers of an array are those of its items. -/
theorem hasNumber_array {items : List Json} {n : Number} :
    (Json.array items).HasNumber n ↔ ∃ item ∈ items, item.HasNumber n := by
  cases items <;> simp [HasNumber, tokens, tokensItems, tokensMoreItems_eq]

/-- The numbers of an object are those of its members. -/
theorem hasNumber_object {members : Members} {n : Number} :
    (Json.object members).HasNumber n ↔ ∃ m ∈ members, m.2.HasNumber n := by
  cases members <;> simp [HasNumber, tokens, tokensMembers, tokensMoreMembers_eq]

end Json

/-! ## Settled values -/

namespace Members

/-- The names of members. -/
def names (members : Members) : List String :=
  members.map Prod.fst

theorem put_of_not_mem {name : String} {value : Json} :
    ∀ {members : Members}, name ∉ members.names → members.put name value = members ++ [(name, value)]
  | [], _ => rfl
  | (other, old) :: rest, unused => by
    obtain ⟨differs, later⟩ : name ≠ other ∧ name ∉ names rest := by simpa [names] using unused
    rw [put, if_neg differs.symm, put_of_not_mem later, List.cons_append]

theorem names_put_of_mem {name : String} {value : Json} :
    ∀ {members : Members}, name ∈ members.names → (members.put name value).names = members.names
  | [], used => by simp [names] at used
  | (other, old) :: rest, used => by
    by_cases same : other = name
    · simp [put, same, names]
    · have later : name ∈ names rest := by simpa [names, Ne.symm same] using used
      have rest_eq : (put rest name value).names = names rest := names_put_of_mem later
      simp only [names] at rest_eq
      simp [put, same, names, rest_eq]

theorem get?_eq_none_iff {members : Members} {name : String} :
    members.get? name = none ↔ name ∉ members.names := by
  simp only [get?, names, List.lookup_eq_none_iff, List.mem_map, bne_iff_ne]
  exact ⟨fun others ⟨m, mem, same⟩ => others m mem same.symm,
    fun absent m mem same => absent ⟨m, mem, same.symm⟩⟩

/-- One more member keeps names apart if its own is new. -/
theorem nodup_names_concat {members : Members} {name : String} {value : Json} :
    (members ++ [(name, value)]).names.Nodup ↔ members.names.Nodup ∧ name ∉ members.names := by
  have others : (∀ a ∈ members.names, a ≠ name) ↔ name ∉ members.names :=
    ⟨fun each mem => each name mem rfl, fun absent a mem eq => absent (eq ▸ mem)⟩
  rw [← others]
  simp [names, List.nodup_append]

/-- A put member stays the only one of its name. -/
theorem nodup_names_put {members : Members} (distinct : members.names.Nodup) (name : String)
    (value : Json) : (members.put name value).names.Nodup := by
  by_cases used : name ∈ members.names
  · rwa [names_put_of_mem used]
  · rw [put_of_not_mem used]
    exact nodup_names_concat.2 ⟨distinct, used⟩

theorem mem_put {name : String} {value : Json} {m : String × Json} :
    ∀ {members : Members}, m ∈ members.put name value → m = (name, value) ∨ m ∈ members
  | [], mem => .inl (by simpa [put] using mem)
  | (other, old) :: rest, mem => by
    rw [put] at mem
    split at mem
    · next same =>
      rcases List.mem_cons.1 mem with rfl | mem
      · exact .inl (by rw [same])
      · exact .inr (List.mem_cons_of_mem _ mem)
    · rcases List.mem_cons.1 mem with rfl | mem
      · exact .inr (List.mem_cons_self ..)
      · exact (mem_put mem).imp_right (List.mem_cons_of_mem _)

end Members

namespace Json

/-- Values in which no object has a name twice. -/
inductive IsSettled : Json → Prop
  | null : IsSettled .null
  | bool (value : Bool) : IsSettled (.bool value)
  | number (value : Number) : IsSettled (.number value)
  | string (value : String) : IsSettled (.string value)
  | array {items : List Json} (each : ∀ item ∈ items, IsSettled item) : IsSettled (.array items)
  | object {members : Members} (distinct : members.names.Nodup)
    (each : ∀ m ∈ members, IsSettled m.2) : IsSettled (.object members)

theorem settledItems_eq_map : ∀ items : List Json, settledItems items = items.map settled
  | [] => by simp [settledItems]
  | item :: rest => by rw [settledItems, settledItems_eq_map rest, List.map_cons]

/-- Members with names of their own are settled one by one. -/
theorem settledMembers_of_nodup : ∀ {done members : Members}, (done ++ members).names.Nodup →
    settledMembers done members = done ++ members.map fun m => (m.1, settled m.2)
  | done, [], _ => by simp [settledMembers]
  | done, (name, value) :: rest, distinct => by
    have unused : name ∉ done.names := by
      intro used
      simp only [Members.names, List.map_append, List.map_cons, List.nodup_append] at distinct used
      exact distinct.2.2 name used name (by simp) rfl
    have later : (done ++ [(name, settled value)] ++ rest).names.Nodup := by
      simpa [Members.names] using distinct
    rw [settledMembers, Members.put_of_not_mem unused, settledMembers_of_nodup later]
    simp

/-- Settled members were there before or come from members of the same name. -/
theorem mem_settledMembers {m : String × Json} : ∀ {done members : Members},
    m ∈ settledMembers done members → m ∈ done ∨ ∃ value, (m.1, value) ∈ members ∧ m.2 = settled value
  | done, [], mem => .inl (by simpa [settledMembers] using mem)
  | done, (name, value) :: rest, mem => by
    rw [settledMembers] at mem
    rcases mem_settledMembers mem with before | ⟨value', mem, eq⟩
    · rcases Members.mem_put before with rfl | before
      · exact .inr ⟨value, by simp, rfl⟩
      · exact .inl before
    · exact .inr ⟨value', List.mem_cons_of_mem _ mem, eq⟩

theorem nodup_names_settledMembers : ∀ {done members : Members}, done.names.Nodup →
    (settledMembers done members).names.Nodup
  | done, [], distinct => by simpa [settledMembers] using distinct
  | done, (name, value) :: rest, distinct => by
    rw [settledMembers]
    exact nodup_names_settledMembers (Members.nodup_names_put distinct _ _)

/-- No name is left twice in a settled value. -/
theorem isSettled_settled (j : Json) : j.settled.IsSettled := by
  induction j using Json.induction with
  | null => exact .null
  | bool value => exact .bool value
  | number value => exact .number value
  | string value => exact .string value
  | array items ih =>
    rw [settled, settledItems_eq_map]
    refine .array fun item mem => ?_
    obtain ⟨raw, raw_mem, rfl⟩ := List.mem_map.1 mem
    exact ih raw raw_mem
  | object members ih =>
    rw [settled]
    refine .object (nodup_names_settledMembers List.nodup_nil) fun m mem => ?_
    rcases mem_settledMembers mem with before | ⟨value, raw_mem, eq⟩
    · cases before
    · rw [eq]
      exact ih _ raw_mem

/-- A value without repeated names is settled already. -/
theorem IsSettled.settled_eq {j : Json} (h : j.IsSettled) : j.settled = j := by
  induction h with
  | null | bool | number | string => rw [settled]
  | @array items each ih =>
    rw [settled, settledItems_eq_map, List.map_congr_left ih, List.map_id']
  | @object members distinct each ih =>
    have same : ∀ m ∈ members, (m.1, settled m.2) = m := fun m mem => by rw [ih m mem]
    rw [settled, settledMembers_of_nodup (by simpa using distinct), List.map_congr_left same]
    simp

/-- Settling nests nothing deeper. -/
theorem nesting_settled_le (j : Json) : j.settled.nesting ≤ j.nesting := by
  induction j using Json.induction with
  | null | bool | number | string => rw [settled]
  | array items ih =>
    rw [settled, settledItems_eq_map, nesting.eq_def (.array items)]
    refine nesting_array_le_iff.2 fun item mem => ?_
    obtain ⟨raw, raw_mem, rfl⟩ := List.mem_map.1 mem
    exact (ih raw raw_mem).trans (nesting_le_of_mem_items raw_mem)
  | object members ih =>
    rw [settled, nesting.eq_def (.object members)]
    refine nesting_object_le_iff.2 fun m mem => ?_
    rcases mem_settledMembers mem with before | ⟨value, raw_mem, eq⟩
    · cases before
    · rw [eq]
      exact (ih _ raw_mem).trans (nesting_le_of_mem_members raw_mem)

/-- Settling brings in no number. -/
theorem hasNumber_of_settled {j : Json} {n : Number} (h : j.settled.HasNumber n) :
    j.HasNumber n := by
  induction j using Json.induction with
  | null | bool | number | string => rwa [settled] at h
  | array items ih =>
    rw [settled, settledItems_eq_map, hasNumber_array] at h
    obtain ⟨item, mem, has⟩ := h
    obtain ⟨raw, raw_mem, rfl⟩ := List.mem_map.1 mem
    exact hasNumber_array.2 ⟨raw, raw_mem, ih raw raw_mem has⟩
  | object members ih =>
    rw [settled, hasNumber_object] at h
    obtain ⟨m, mem, has⟩ := h
    rcases mem_settledMembers mem with before | ⟨value, raw_mem, eq⟩
    · cases before
    · rw [eq] at has
      exact hasNumber_object.2 ⟨_, raw_mem, ih _ raw_mem has⟩

end Json

end Wireframe
