import Mathlib.Data.List.Nodup
import Mathlib.Tactic.SplitIfs

/-!
# Results and lists

When a computation in several steps succeeds, so that steps can be taken apart one by one, what a
list holds when it has grown, and what is found in a list whose items can be told apart.
-/

namespace Wireframe

variable {ε α β : Type}

/-- Two steps one after the other succeed if both do. -/
theorem bind_eq_ok_iff {x : Except ε α} {f : α → Except ε β} {b : β} :
    (x >>= f) = .ok b ↔ ∃ a, x = .ok a ∧ f a = .ok b := by
  cases x with
  | error e => simp [bind, Except.bind]
  | ok a => simp [bind, Except.bind]

/-- Two steps one after the other fail if one of them does. -/
theorem bind_eq_error_iff {x : Except ε α} {f : α → Except ε β} {e : ε} :
    (x >>= f) = .error e ↔ x = .error e ∨ ∃ a, x = .ok a ∧ f a = .error e := by
  cases x <;> simp [bind, Except.bind]

/-- What is made of a result is there if the result is. -/
theorem map_eq_ok_iff {x : Except ε α} {f : α → β} {b : β} :
    x.map f = .ok b ↔ ∃ a, x = .ok a ∧ f a = b := by
  cases x <;> simp [Except.map]

theorem map_eq_error_iff {x : Except ε α} {f : α → β} {e : ε} :
    x.map f = .error e ↔ x = .error e := by
  cases x <;> simp [Except.map]

/-- The second part of a pair is there if the pair is. -/
theorem map_snd_eq_ok_iff {x : Except ε (α × β)} {b : β} :
    x.map Prod.snd = .ok b ↔ ∃ a, x = .ok (a, b) := by
  simp [map_eq_ok_iff]

/-- What comes behind a list stands at its length. -/
theorem getElem?_concat_eq_some_iff {xs : List α} {a x : α} {i : Nat} :
    (xs ++ [a])[i]? = some x ↔ xs[i]? = some x ∨ i = xs.length ∧ x = a := by
  rcases Nat.lt_trichotomy i xs.length with inside | rfl | beyond
  · simp [List.getElem?_append_left inside, Nat.ne_of_lt inside]
  · simp [eq_comm]
  · have outside : (xs ++ [a]).length ≤ i := by
      rw [List.length_append, List.length_singleton]
      exact beyond
    rw [List.getElem?_eq_none outside, List.getElem?_eq_none (Nat.le_of_lt beyond)]
    simp [Nat.ne_of_gt beyond]

/-- What is in a list is the first in it with what tells its items apart. -/
theorem find?_of_nodup_map [DecidableEq β] {f : α → β} {xs : List α} (distinct : (xs.map f).Nodup)
    {x : α} (mem : x ∈ xs) : (xs.find? fun y => f y = f x) = some x := by
  cases found : xs.find? fun y => f y = f x with
  | none =>
    have differs := List.find?_eq_none.1 found x mem
    simp at differs
  | some other =>
    have same : f other = f x := by simpa using List.find?_some found
    rw [List.inj_on_of_nodup_map distinct (List.mem_of_find?_eq_some found) mem same]

/-! ## Look-ups -/

section Lookup

variable {γ : Type} [BEq α] [LawfulBEq α]

theorem lookup_eq_none_iff_not_mem {key : α} {xs : List (α × β)} :
    List.lookup key xs = none ↔ key ∉ xs.map Prod.fst := by
  rw [List.lookup_eq_none_iff, List.mem_map]
  constructor
  · rintro differ ⟨entry, mem, rfl⟩
    simpa using differ entry mem
  · exact fun absent entry mem => bne_iff_ne.2 fun same => absent ⟨entry, mem, same.symm⟩

variable [DecidableEq α]

theorem lookup_cons_eq_ite (key other : α) (value : β) (rest : List (α × β)) :
    List.lookup key ((other, value) :: rest) =
      if key = other then some value else List.lookup key rest := by
  by_cases same : key = other
  · subst same
    simp
  · rw [List.lookup_cons, beq_false_of_ne same, if_neg same]

/-- Nothing is found any more under a key that was taken out. -/
theorem lookup_filter_ne (key other : α) (xs : List (α × β)) :
    List.lookup key (xs.filter fun entry => entry.1 ≠ other) =
      if key = other then none else List.lookup key xs := by
  induction xs with
  | nil => simp
  | cons entry rest ih =>
    by_cases same : entry.1 = other
    · rw [List.filter_cons_of_neg (by simpa using same), ih, lookup_cons_eq_ite, same]
      split_ifs <;> rfl
    · rw [List.filter_cons_of_pos (by simpa using same), lookup_cons_eq_ite, lookup_cons_eq_ite, ih]
      by_cases here : key = entry.1
      · rw [if_pos here, if_neg (here ▸ same), if_pos here]
      · rw [if_neg here, if_neg here]

/-- What is found when the values under one key are changed. -/
theorem lookup_map_at (f : β → β) (key other : α) (xs : List (α × β)) :
    List.lookup key (xs.map fun entry => if entry.1 = other then (other, f entry.2) else entry) =
      if key = other then (List.lookup key xs).map f else List.lookup key xs := by
  induction xs with
  | nil => simp
  | cons entry rest ih =>
    obtain ⟨place, value⟩ := entry
    rw [List.map_cons, lookup_cons_eq_ite key place]
    by_cases changed : place = other
    · subst changed
      rw [if_pos rfl, lookup_cons_eq_ite, ih]
      split_ifs <;> rfl
    · rw [if_neg changed, lookup_cons_eq_ite, ih]
      by_cases here : key = place
      · subst here
        simp [changed]
      · simp [here]

/-- Where no key comes twice, each finds its value. -/
theorem lookup_eq_some_iff_mem (key : α) (value : β) : ∀ {xs : List (α × β)},
    (xs.map Prod.fst).Nodup → (List.lookup key xs = some value ↔ (key, value) ∈ xs)
  | [], _ => by simp
  | (other, found) :: rest, nodup => by
    obtain ⟨fresh, nodup_rest⟩ := List.nodup_cons.1 nodup
    have later := lookup_eq_some_iff_mem key value nodup_rest
    rw [lookup_cons_eq_ite]
    by_cases same : key = other
    · subst same
      have absent : (key, value) ∉ rest := fun mem => fresh (List.mem_map.2 ⟨_, mem, rfl⟩)
      simp [absent, eq_comm]
    · simp [same, later]

/-- Where no key comes twice, the order does not matter. -/
theorem lookup_eq_of_perm {xs ys : List (α × β)} (perm : xs.Perm ys)
    (nodup : (xs.map Prod.fst).Nodup) (key : α) : List.lookup key xs = List.lookup key ys := by
  have nodup' : (ys.map Prod.fst).Nodup := (perm.map _).nodup_iff.1 nodup
  refine Option.ext fun value => ?_
  rw [lookup_eq_some_iff_mem key value nodup, lookup_eq_some_iff_mem key value nodup', perm.mem_iff]

/-- Where no key comes twice, the values of some can be dropped and the others replaced. -/
theorem lookup_filterMap (f : β → Option γ) (key : α) : ∀ {xs : List (α × β)},
    (xs.map Prod.fst).Nodup →
      List.lookup key (xs.filterMap fun entry => (f entry.2).map fun w => (entry.1, w)) =
        (List.lookup key xs).bind f
  | [], _ => rfl
  | (other, value) :: rest, nodup => by
    obtain ⟨fresh, nodup_rest⟩ := List.nodup_cons.1 nodup
    have later := lookup_filterMap f key nodup_rest
    rw [lookup_cons_eq_ite]
    cases drawn : f value with
    | some w =>
      rw [List.filterMap_cons_some (by rw [drawn]; rfl), lookup_cons_eq_ite]
      split_ifs <;> simp [drawn, later]
    | none =>
      rw [List.filterMap_cons_none (by rw [drawn]; rfl), later]
      split_ifs with same
      · subst same
        simp [lookup_eq_none_iff_not_mem.2 fresh, drawn]
      · rfl

end Lookup

end Wireframe
