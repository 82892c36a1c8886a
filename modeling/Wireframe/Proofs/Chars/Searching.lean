import Wireframe.Chars.Case

/-!
# Searching for words

A word stands in a text if it is an infix of it (`Chars.contains_eq_true_iff`). A character that is
not in the word parts the text : the word stands on one side of it or on the other
(`Chars.infix_append_cons_iff`). Lower-casing leaves small letters, marks and control characters as
they are, and makes no control character out of another one.
-/

namespace Wireframe.Chars

/-- A text contains the words that are infixes of it. -/
theorem contains_eq_true_iff (word : List Char) :
    ∀ text : List Char, contains word text = true ↔ word <:+: text
  | [] => by simp [contains]
  | c :: rest => by
    rw [contains, Bool.or_eq_true, List.isPrefixOf_iff_prefix, contains_eq_true_iff word rest,
      List.infix_cons_iff]

/-! ## Characters that are not in the word -/

section

variable {α : Type} {word : List α} {x : α} (absent : x ∉ word)
include absent

/-- Only the empty word begins a text whose first character it does not have. -/
theorem prefix_cons_iff_of_not_mem {text : List α} : word <+: x :: text ↔ word = [] := by
  constructor
  · intro begins
    cases word with
    | nil => rfl
    | cons c word =>
      obtain rfl := (List.cons_prefix_cons.1 begins).1
      exact absurd (List.mem_cons_self ..) absent
  · rintro rfl
    exact List.nil_prefix

/-- A character that is not in the word stands beside it. -/
theorem infix_cons_iff_of_not_mem {text : List α} : word <:+: x :: text ↔ word <:+: text := by
  rw [List.infix_cons_iff, prefix_cons_iff_of_not_mem absent]
  exact or_iff_right_of_imp fun empty => empty ▸ List.nil_infix

/-- A character that is not in the word parts the text in two. -/
theorem infix_append_cons_iff {before behind : List α} :
    word <:+: before ++ x :: behind ↔ word <:+: before ∨ word <:+: behind := by
  rw [List.infix_append_iff, infix_cons_iff_of_not_mem absent]
  refine ⟨?_, fun either => either.imp_right .inl⟩
  rintro (first | second | ⟨start, rest, rfl, ends, begins⟩)
  · exact .inl first
  · exact .inr second
  · have nothing : rest = [] :=
      (prefix_cons_iff_of_not_mem fun mem => absent (List.mem_append_right _ mem)).1 begins
    rw [nothing, List.append_nil]
    exact .inl ends.isInfix

/-- Nothing is found across a character that the first text ends with. -/
theorem infix_append_iff_of_getLast? {before behind : List α} (last : before.getLast? = some x) :
    word <:+: before ++ behind ↔ word <:+: before ∨ word <:+: behind := by
  obtain ⟨front, rfl⟩ := List.getLast?_eq_some_iff.1 last
  rw [List.append_assoc, List.singleton_append, infix_append_cons_iff absent,
    infix_append_cons_iff absent, or_assoc, or_iff_right_of_imp (a := word <:+: [])]
  rintro nothing
  rw [List.infix_nil.1 nothing]
  exact List.nil_infix

/-- Nothing is found across a character that the second text begins with. -/
theorem infix_append_iff_of_head? {before behind : List α} (first : behind.head? = some x) :
    word <:+: before ++ behind ↔ word <:+: before ∨ word <:+: behind := by
  obtain ⟨rest, rfl⟩ := List.head?_eq_some_iff.1 first
  rw [infix_append_cons_iff absent, infix_cons_iff_of_not_mem absent]

end

/-- A text that begins with another character than those in front is found behind them. -/
theorem infix_append_iff_of_head_not_mem {α : Type} {x : α} {word before behind : List α}
    (absent : x ∉ before) : x :: word <:+: before ++ behind ↔ x :: word <:+: behind := by
  rw [List.infix_append_iff]
  refine ⟨?_, fun found => .inr (.inl found)⟩
  rintro (first | second | ⟨start, rest, eq, ends, begins⟩)
  · exact absurd (first.subset (List.mem_cons_self ..)) absent
  · exact second
  · cases start with
    | nil => exact eq ▸ begins.isInfix
    | cons c start =>
      cases eq
      exact absurd (ends.subset (List.mem_cons_self ..)) absent

/-! ## Texts behind the same characters -/

section

variable {α : Type} {word front a b : List α}
  (same : ∀ rest, rest <:+ word → (rest <+: a ↔ rest <+: b))
include same

/-- What begins two texts alike begins them alike behind the same characters. -/
theorem prefix_append_congr : word <+: front ++ a ↔ word <+: front ++ b := by
  induction front generalizing word with
  | nil => exact same word (List.suffix_refl _)
  | cons c front ih =>
    cases word with
    | nil => simp
    | cons d word =>
      rw [List.cons_append, List.cons_append, List.cons_prefix_cons, List.cons_prefix_cons,
        ih fun rest ends => same rest (ends.trans (List.suffix_cons ..))]

/-- What is found in a text where it is in another, or for one more reason, is found in it behind
the same characters as well. -/
theorem infix_append_congr {p : Prop} (found : word <:+: a ↔ word <:+: b ∨ p) :
    word <:+: front ++ a ↔ word <:+: front ++ b ∨ p := by
  induction front with
  | nil => exact found
  | cons c front ih =>
    have begins : word <+: (c :: front) ++ a ↔ word <+: (c :: front) ++ b :=
      prefix_append_congr same
    rw [List.cons_append, List.cons_append] at begins ⊢
    rw [List.infix_cons_iff, List.infix_cons_iff, begins, ih, or_assoc]

end

/-! ## Lower-casing -/

theorem lowercase_append (a b : List Char) : lowercase (a ++ b) = lowercase a ++ lowercase b :=
  List.flatMap_append

theorem lowercase_cons (c : Char) (cs : List Char) :
    lowercase (c :: cs) = lowercaseChar c ++ lowercase cs :=
  List.flatMap_cons

theorem lowercase_singleton (c : Char) : lowercase [c] = lowercaseChar c :=
  List.flatMap_singleton ..

/-- The runs of capitals behind those of ASCII begin behind ASCII. -/
theorem first_of_mem_tail_capitals : ∀ run ∈ capitals.tail, 0xC0 ≤ run.first := by
  decide +kernel

/-- What is written without capitals of ASCII and codes from 192 on is lower case already. -/
theorem lowercaseChar_eq_self {c : Char} (small : c.toNat < 0xC0)
    (noCapital : ¬ (0x41 ≤ c.toNat ∧ c.toNat ≤ 0x5A)) : lowercaseChar c = [c] := by
  have unheld : ∀ run ∈ capitals, ¬ run.holds c.toNat = true := by
    intro run mem holds
    simp only [CaseRun.holds, Bool.and_eq_true, decide_eq_true_eq] at holds
    rcases List.mem_cons.1 mem with rfl | mem
    · exact noCapital holds.1
    · have := first_of_mem_tail_capitals run mem
      omega
  have notDotted : c.toNat ≠ 0x130 := by omega
  simp only [lowercaseChar, notDotted, if_false, List.find?_eq_none.2 unheld]

theorem lowercase_eq_self {cs : List Char}
    (small : ∀ c ∈ cs, c.toNat < 0xC0 ∧ ¬ (0x41 ≤ c.toNat ∧ c.toNat ≤ 0x5A)) :
    lowercase cs = cs := by
  induction cs with
  | nil => rfl
  | cons c cs ih =>
    have first := small c (List.mem_cons_self ..)
    rw [lowercase_cons, lowercaseChar_eq_self first.1 first.2,
      ih fun d mem => small d (List.mem_cons_of_mem _ mem), List.singleton_append]

/-- The small letters of a run are characters, and no control characters. -/
theorem shifted_of_mem_capitals : ∀ run ∈ capitals, 0x20 ≤ run.first + run.shift ∧
    (run.last + run.shift < 0xD800 ∨
      0xDFFF < run.first + run.shift ∧ run.last + run.shift < 0x110000) := by
  decide +kernel

/-- What holds of the characters with small codes one by one holds of each of them. -/
theorem of_toNat_lt {P : Char → Prop} {bound : Nat} (all : ∀ n < bound, P (Char.ofNat n)) {c : Char}
    (small : c.toNat < bound) : P c := by
  have first := all c.toNat small
  rwa [Char.ofNat_toNat] at first

/-- A control character comes of itself only. -/
theorem eq_of_mem_lowercaseChar {c d : Char} (control : c.toNat < 0x20)
    (mem : c ∈ lowercaseChar d) : c = d := by
  unfold lowercaseChar at mem
  dsimp only at mem
  split at mem
  · simp only [List.mem_cons, List.not_mem_nil, or_false] at mem
    rcases mem with rfl | rfl <;> exact absurd control (by decide)
  split at mem
  · next run found =>
    obtain rfl := List.mem_singleton.1 mem
    have holds := List.find?_some found
    simp only [CaseRun.holds, Bool.and_eq_true, decide_eq_true_eq] at holds
    have shifted := shifted_of_mem_capitals run (List.mem_of_find?_eq_some found)
    have valid : (d.toNat + run.shift).toNat.isValidChar := by
      unfold Nat.isValidChar
      omega
    have code_eq :
        (Char.ofNat (d.toNat + run.shift).toNat).toNat = (d.toNat + run.shift).toNat := by
      rw [Char.ofNat, dif_pos valid]
      rfl
    omega
  · exact List.mem_singleton.1 mem

end Wireframe.Chars
