import Wireframe.Json.Basic

/-!
# Members of objects

How a member is found among others, and the induction that follows the members named `children`
from an object into the items of their array.
-/

namespace Wireframe

namespace Members

theorem get?_nil (name : String) : get? [] name = none :=
  rfl

theorem get?_cons_self (name : String) (value : Json) (rest : Members) :
    get? ((name, value) :: rest) name = some value := by
  simp [get?]

theorem get?_cons_of_ne {name other : String} (h : other ≠ name) (value : Json)
    (rest : Members) : get? ((other, value) :: rest) name = get? rest name := by
  have differs : (name == other) = false := by simpa using fun e => h e.symm
  simp [get?, List.lookup_cons, differs]

theorem get?_append (a b : Members) (name : String) :
    get? (a ++ b) name = (get? a name).or (get? b name) :=
  List.lookup_append

/-- What was taken out is gone, and nothing else is. -/
theorem get?_without (name other : String) : ∀ members : Members,
    (members.without name).get? other = if other = name then none else members.get? other
  | [] => by simp [without, get?_nil]
  | (first, value) :: rest => by
    have others := get?_without name other rest
    unfold without at others ⊢
    by_cases taken : first = name
    · subst taken
      rw [List.filter_cons_of_neg (by simp), others]
      by_cases same : other = first
      · rw [if_pos same, if_pos same]
      · rw [if_neg same, if_neg same, get?_cons_of_ne (Ne.symm same)]
    · rw [List.filter_cons_of_pos (by simpa using taken)]
      by_cases same : first = other
      · subst same
        rw [get?_cons_self, get?_cons_self, if_neg taken]
      · rw [get?_cons_of_ne same, get?_cons_of_ne same, others]

/-- What was put is there, and all else is as it was. -/
theorem get?_put (name other : String) (value : Json) : ∀ members : Members,
    (members.put name value).get? other = if other = name then some value else members.get? other
  | [] => by
    by_cases same : name = other
    · subst same
      rw [put, get?_cons_self, if_pos rfl]
    · rw [put, get?_cons_of_ne same, if_neg (Ne.symm same)]
  | (first, old) :: rest => by
    by_cases here : first = name
    · subst here
      rw [put, if_pos rfl]
      by_cases same : other = first
      · rw [if_pos same, same, get?_cons_self]
      · rw [if_neg same, get?_cons_of_ne (Ne.symm same), get?_cons_of_ne (Ne.symm same)]
    · rw [put, if_neg here]
      by_cases same : first = other
      · subst same
        rw [get?_cons_self, get?_cons_self, if_neg here]
      · rw [get?_cons_of_ne same, get?_cons_of_ne same, get?_put]

theorem mem_of_get? {members : Members} {name : String} {value : Json}
    (h : members.get? name = some value) : (name, value) ∈ members := by
  obtain ⟨before, behind, rfl, -⟩ := List.lookup_eq_some_iff.1 h
  simp

theorem present?_eq_some {members : Members} {name : String} {value : Json} :
    members.present? name = some value ↔ members.get? name = some value ∧ value ≠ .null := by
  unfold present?
  split
  · next h => simp +contextual [h]
  · next h =>
    refine ⟨fun found => ⟨found, ?_⟩, And.left⟩
    rintro rfl
    exact h found

theorem present?_cons_of_ne {name other : String} (h : other ≠ name) (value : Json)
    (rest : Members) : present? ((other, value) :: rest) name = present? rest name := by
  simp only [present?, get?_cons_of_ne h]

/-- A member is smaller than all of them together. -/
theorem sizeOf_lt_of_get? {name : String} {value : Json} :
    ∀ {members : Members}, members.get? name = some value → sizeOf value < sizeOf members
  | [], h => by simp [get?] at h
  | (other, first) :: rest, h => by
    by_cases same : other = name
    · subst same
      rw [get?_cons_self] at h
      cases h
      simp
      omega
    · rw [get?_cons_of_ne same] at h
      have := sizeOf_lt_of_get? h
      simp
      omega

end Members

/-- Induction over the children of nodes: it is enough to show a property of a value if all items
of the `children` among its members have it. -/
theorem Json.childrenInduction {P : Json → Prop}
    (step : ∀ raw, (∀ members items, raw = .object members →
      Members.present? members "children" = some (.array items) → ∀ item ∈ items, P item) → P raw)
    (raw : Json) : P raw := by
  refine step raw fun members items raw_eq present item mem => ?_
  have outer := Members.sizeOf_lt_of_get? (Members.present?_eq_some.1 present).1
  have inner := List.sizeOf_lt_of_mem mem
  subst raw_eq
  exact childrenInduction step item
termination_by sizeOf raw
decreasing_by
  subst raw_eq
  simp at outer ⊢
  omega

end Wireframe
