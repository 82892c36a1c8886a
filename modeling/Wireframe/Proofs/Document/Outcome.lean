import Wireframe.Document.Validation

/-!
# Outcomes of checks

A check goes on after a fault with a stand-in, so its value alone says nothing. Its `outcome`
is the value of a check that found nothing wrong, and none otherwise. Outcomes follow the
checks : one check behind another comes out as the first and then the second
(`Checked.outcome_bind`), so a stand-in never reaches a result.
-/

namespace Wireframe

namespace Checked

variable {α β : Type}

/-- The value of a check that found nothing wrong. -/
def outcome (c : Checked α) : Option α :=
  if c.issues = [] then some c.value else none

@[simp] theorem outcome_pure (a : α) : (pure a : Checked α).outcome = some a :=
  rfl

@[simp] theorem outcome_report (p : Path) (fault : Fault) (standIn : α) :
    (report p fault standIn).outcome = none :=
  rfl

/-- Two checks in a row come out where both do. -/
@[simp] theorem outcome_bind (c : Checked α) (next : α → Checked β) :
    (c >>= next).outcome = c.outcome.bind fun a => (next a).outcome := by
  show (if c.issues ++ (next c.value).issues = [] then some (next c.value).value else none) = _
  by_cases h : c.issues = []
  · simp [outcome, h]
  · simp [outcome, h]

/-- A result is given exactly for a value that came out. -/
theorem result_eq_ok_iff {c : Checked (Option α)} {a : α} :
    c.result = .ok a ↔ c.outcome = some (some a) := by
  obtain ⟨value, issues⟩ := c
  cases value <;> cases issues <;> simp [result, outcome]

end Checked

/-! ## Words -/

/-- Choices whose words tell all values apart. -/
class LawfulChoices (α : Type) [Choices α] : Prop where
  ofWord?_word : ∀ value : α, Choices.ofWord? (Choices.word value) = some value

attribute [simp] LawfulChoices.ofWord?_word

instance : LawfulChoices Direction := ⟨fun value => by cases value <;> decide⟩
instance : LawfulChoices TextVariant := ⟨fun value => by cases value <;> decide⟩
instance : LawfulChoices InputKind := ⟨fun value => by cases value <;> decide⟩
instance : LawfulChoices ButtonVariant := ⟨fun value => by cases value <;> decide⟩
instance : LawfulChoices NodeType := ⟨fun value => by cases value <;> decide⟩

namespace Choices

variable {α : Type} [Choices α]

/-- A word that is read back names the value it is read as. -/
theorem word_of_ofWord? {word : String} {value : α} (h : ofWord? word = some value) :
    Choices.word value = word := by
  simpa using List.find?_some h

/-- A word is read back exactly if it is listed. -/
theorem isSome_ofWord? {word : String} :
    (ofWord? word : Option α).isSome ↔ word ∈ words α := by
  simp [ofWord?, words, List.find?_isSome]

/-- The word of every value is listed. -/
theorem word_mem_words [LawfulChoices α] (value : α) : Choices.word value ∈ words α := by
  rw [← isSome_ofWord?, LawfulChoices.ofWord?_word]
  rfl

theorem word_inj [LawfulChoices α] {a b : α} : Choices.word a = Choices.word b ↔ a = b := by
  constructor
  · intro h
    have same := LawfulChoices.ofWord?_word a
    rw [h, LawfulChoices.ofWord?_word] at same
    exact (Option.some.inj same).symm
  · rintro rfl
    rfl

end Choices

end Wireframe
