import Mathlib.Data.List.Basic
import Wireframe.Screen.Markup

/-!
# Entities

Text goes into a page through five replacements in the whole text, one after the other. No entity
has a character that is replaced after it, so the five together write each character once, as its
entity or by itself (`escapeChars_eq_flatMap`).

What they write is escaped : four of the characters are not left, and each `&` begins an entity
(`IsEscaped`). Every escaped text is what they write of some text (`isEscaped_iff`).

`unescapeChars` reads entities back in one pass from the left, and has the text again that was
written, also where parts of it look like entities (`unescapeChars_escapeChars`).
-/

namespace Wireframe

/-! ## Replacements one after the other -/

/-- Characters that are replaced one after the other are replaced at once, unless one of them stands
in what was put in for another before it. -/
theorem foldl_replaceChar {entity : Char → List Char} {marks : List Char}
    (apart : marks.Pairwise fun earlier later => later ∉ entity earlier) (text : List Char) :
    marks.foldl (fun text mark => replaceChar mark (entity mark) text) text =
      text.flatMap fun c => if c ∈ marks then entity c else [c] := by
  induction apart generalizing text with
  | nil => simp
  | @cons mark marks absent _ ih =>
    -- No later replacement finds anything in what the first one puts in.
    have kept : (entity mark).flatMap (fun c => if c ∈ marks then entity c else [c]) =
        entity mark := by
      calc (entity mark).flatMap (fun c => if c ∈ marks then entity c else [c])
          = (entity mark).flatMap fun c => [c] :=
            List.flatMap_congr fun c mem => if_neg fun later => absent c later mem
        _ = entity mark := List.flatMap_singleton' _
    rw [List.foldl_cons, ih, replaceChar, List.flatMap_assoc]
    refine List.flatMap_congr fun c _ => ?_
    by_cases first : c = mark
    · simp [first, kept]
    · simp [first]

theorem escapeChar_of_not_mem {c : Char} (plain : c ∉ escapedMarks) : escapeChar c = [c] := by
  unfold escapeChar
  split
  case h_6 => rfl
  all_goals exact absurd (by decide) plain

/-- The five replacements write each character once, as its entity or by itself. -/
theorem escapeChars_eq_flatMap (cs : List Char) : escapeChars cs = cs.flatMap escapeChar := by
  have apart : escapedMarks.Pairwise fun earlier later => later ∉ escapeChar earlier := by decide
  rw [escapeChars, foldl_replaceChar apart]
  refine List.flatMap_congr fun c _ => ?_
  split
  case isTrue => rfl
  case isFalse plain => exact (escapeChar_of_not_mem plain).symm

-- With the first two in the other order a `<` would be read as four characters.
example : replaceChar '&' (escapeChar '&') (replaceChar '<' (escapeChar '<') ['<']) =
    "&amp;lt;".toList := by
  decide

@[simp] theorem escapeChars_nil : escapeChars [] = [] :=
  rfl

@[simp] theorem escapeChars_cons (c : Char) (cs : List Char) :
    escapeChars (c :: cs) = escapeChar c ++ escapeChars cs := by
  simp [escapeChars_eq_flatMap]

/-! ## Escaped text -/

/-- What is written for the characters that mean something in markup. -/
def entities : List String :=
  ["&amp;", "&lt;", "&gt;", "&quot;", "&#39;"]

/-- A text in which nothing means anything in markup but its entities. -/
structure IsEscaped (text : List Char) : Prop where
  unmarked : ∀ c ∈ text, c ∉ ['<', '>', '"', '\'']
  begins : ∀ before after, text = before ++ '&' :: after →
    ∃ entity ∈ entities, entity.toList <+: '&' :: after

/-- The entities are those of the characters that are replaced, in the same order. -/
theorem map_escapeChar : escapedMarks.map escapeChar = entities.map String.toList :=
  rfl

theorem exists_entity {c : Char} (mark : c ∈ escapedMarks) :
    ∃ entity ∈ entities, entity.toList = escapeChar c :=
  List.mem_map.1 (map_escapeChar ▸ List.mem_map_of_mem mark)

theorem exists_mark {entity : String} (mem : entity ∈ entities) :
    ∃ c ∈ escapedMarks, escapeChar c = entity.toList :=
  List.mem_map.1 (map_escapeChar ▸ List.mem_map_of_mem mem)

/-- An entity begins with `&`, and nothing behind that is replaced. -/
theorem entity_shape {entity : String} (mem : entity ∈ entities) :
    ∃ rest, entity.toList = '&' :: rest ∧ ∀ c ∈ rest, c ∉ escapedMarks := by
  obtain ⟨head, plain⟩ := (by decide : ∀ entity ∈ entities, entity.toList.head? = some '&' ∧
    entity.toList.tail.all (· ∉ escapedMarks) = true) entity mem
  exact ⟨entity.toList.tail, (List.cons_head?_tail head).symm, by simpa using plain⟩

theorem isEscaped_nil : IsEscaped [] where
  unmarked := by simp
  begins := by simp

/-- A character that is not replaced is escaped by itself. -/
theorem isEscaped_singleton {c : Char} (plain : c ∉ escapedMarks) : IsEscaped [c] where
  unmarked d mem := by
    obtain rfl := List.mem_singleton.1 mem
    exact fun mark => plain (List.mem_cons_of_mem '&' mark)
  begins before after eq := by
    have amp : '&' ∈ [c] := eq ▸ by simp
    obtain rfl := List.mem_singleton.1 amp
    exact absurd (by decide) plain

theorem isEscaped_entity {entity : String} (mem : entity ∈ entities) :
    IsEscaped entity.toList := by
  obtain ⟨rest, shape, plain⟩ := entity_shape mem
  rw [shape]
  constructor
  case unmarked =>
    intro c inside
    obtain rfl | inside := List.mem_cons.1 inside
    · decide
    · exact fun mark => plain c inside (List.mem_cons_of_mem '&' mark)
  case begins =>
    intro before after eq
    obtain ⟨-, whole⟩ | ⟨front, -, later⟩ := List.cons_eq_append_iff.1 eq
    · rw [whole]
      exact ⟨entity, mem, shape ▸ List.prefix_refl _⟩
    · exact absurd (by decide) (plain '&' (by simp [later]))

/-- How a character is written is escaped. -/
theorem isEscaped_escapeChar (c : Char) : IsEscaped (escapeChar c) := by
  by_cases mark : c ∈ escapedMarks
  · obtain ⟨entity, mem, eq⟩ := exists_entity mark
    exact eq ▸ isEscaped_entity mem
  · exact escapeChar_of_not_mem mark ▸ isEscaped_singleton mark

namespace IsEscaped

/-- Escaped texts one behind the other are escaped. -/
theorem append {first second : List Char} (escaped : IsEscaped first)
    (escaped' : IsEscaped second) : IsEscaped (first ++ second) where
  unmarked c mem := (List.mem_append.1 mem).elim (escaped.unmarked c) (escaped'.unmarked c)
  begins before after eq := by
    -- The `&` stands in the second text or in the first, whose entities are not cut off.
    obtain ⟨gap, rfl, here⟩ | ⟨gap, rfl, here⟩ := List.append_eq_append_iff.1 eq
    · exact escaped'.begins gap after here
    · cases gap with
      | nil => exact escaped'.begins [] after here.symm
      | cons c gap =>
        obtain ⟨rfl, rfl⟩ := List.cons.inj here
        obtain ⟨entity, mem, begins⟩ := escaped.begins before gap rfl
        exact ⟨entity, mem, begins.trans (List.prefix_append ('&' :: gap) second)⟩

/-- What stands behind any part of an escaped text is escaped. -/
theorem of_append {first second : List Char} (escaped : IsEscaped (first ++ second)) :
    IsEscaped second where
  unmarked c mem := escaped.unmarked c (List.mem_append_right first mem)
  begins before after eq := escaped.begins (first ++ before) after (by simp [eq])

/-- An escaped text begins with what is written for some character. -/
theorem exists_escapeChar {c : Char} {rest : List Char} (escaped : IsEscaped (c :: rest)) :
    ∃ d behind, escapeChar d ++ behind = c :: rest := by
  by_cases amp : c = '&'
  · obtain rfl := amp
    obtain ⟨entity, mem, behind, eq⟩ := escaped.begins [] rest rfl
    obtain ⟨d, -, written⟩ := exists_mark mem
    exact ⟨d, behind, written ▸ eq⟩
  · have plain : c ∉ escapedMarks := fun mark =>
      escaped.unmarked c List.mem_cons_self ((List.mem_cons.1 mark).resolve_left amp)
    exact ⟨c, rest, by rw [escapeChar_of_not_mem plain, List.singleton_append]⟩

end IsEscaped

theorem escapeChar_ne_nil (c : Char) : escapeChar c ≠ [] := by
  unfold escapeChar
  split <;> exact List.cons_ne_nil _ _

/-- What is written of a text is escaped. -/
theorem isEscaped_escapeChars (cs : List Char) : IsEscaped (escapeChars cs) := by
  induction cs with
  | nil => exact isEscaped_nil
  | cons c cs ih => exact escapeChars_cons c cs ▸ (isEscaped_escapeChar c).append ih

/-- An escaped text is written of some text. -/
theorem exists_escapeChars : ∀ {text : List Char}, IsEscaped text → ∃ cs, escapeChars cs = text
  | [], _ => ⟨[], rfl⟩
  | c :: rest, escaped => by
    obtain ⟨d, behind, eq⟩ := escaped.exists_escapeChar
    have shorter : behind.length < (c :: rest).length := by
      rw [← eq, List.length_append]
      exact Nat.lt_add_of_pos_left (List.length_pos_of_ne_nil (escapeChar_ne_nil d))
    obtain ⟨cs, written⟩ := exists_escapeChars (IsEscaped.of_append (eq ▸ escaped))
    exact ⟨d :: cs, by rw [escapeChars_cons, written, eq]⟩
termination_by text => text.length
decreasing_by exact shorter

/-- The escaped texts are those that are written. -/
theorem isEscaped_iff {text : List Char} : IsEscaped text ↔ ∃ cs, escapeChars cs = text :=
  ⟨exists_escapeChars, fun ⟨cs, written⟩ => written ▸ isEscaped_escapeChars cs⟩

/-! ## Reading entities back -/

/-- Text with its entities read back, in one pass from the left. What is no entity stands for
itself. -/
def unescapeChars : List Char → List Char
  | '&' :: 'a' :: 'm' :: 'p' :: ';' :: rest => '&' :: unescapeChars rest
  | '&' :: 'l' :: 't' :: ';' :: rest => '<' :: unescapeChars rest
  | '&' :: 'g' :: 't' :: ';' :: rest => '>' :: unescapeChars rest
  | '&' :: 'q' :: 'u' :: 'o' :: 't' :: ';' :: rest => '"' :: unescapeChars rest
  | '&' :: '#' :: '3' :: '9' :: ';' :: rest => '\'' :: unescapeChars rest
  | c :: rest => c :: unescapeChars rest
  | [] => []

theorem unescapeChars_cons {c : Char} (plain : c ≠ '&') (rest : List Char) :
    unescapeChars (c :: rest) = c :: unescapeChars rest := by
  rw [unescapeChars]
  all_goals exact fun _ amp _ => plain amp

/-- What is written for a character is read as that character, whatever stands behind it. -/
theorem unescapeChars_escapeChar_append (c : Char) (behind : List Char) :
    unescapeChars (escapeChar c ++ behind) = c :: unescapeChars behind := by
  unfold escapeChar
  split
  case h_6 plain _ _ _ _ => exact unescapeChars_cons plain behind
  all_goals rfl

/-- What is written of a text is read as that text. -/
theorem unescapeChars_escapeChars (cs : List Char) : unescapeChars (escapeChars cs) = cs := by
  induction cs with
  | nil => rfl
  | cons c cs ih => rw [escapeChars_cons, unescapeChars_escapeChar_append, ih]

/-- Escaping loses nothing and leaves nothing. Its five replacements write each character once, what
they write is escaped and is read back as the text, and so no two texts are written alike. -/
theorem escaping_loses_and_leaves_nothing :
    (∀ cs, escapeChars cs = cs.flatMap escapeChar ∧ IsEscaped (escapeChars cs) ∧
      unescapeChars (escapeChars cs) = cs) ∧
    Function.Injective escapeChars := by
  have back : Function.LeftInverse unescapeChars escapeChars := unescapeChars_escapeChars
  exact ⟨fun cs => ⟨escapeChars_eq_flatMap cs, isEscaped_escapeChars cs, back cs⟩, back.injective⟩

-- A text that looks like an entity is not read as one.
example : escapeChars "&lt;".toList = "&amp;lt;".toList ∧
    unescapeChars "&amp;lt;".toList = "&lt;".toList := by
  decide

end Wireframe
