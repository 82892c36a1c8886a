import Wireframe.Document.Conversion
import Wireframe.Proofs.Json.Searching

/-!
# Keywords

The flags of a value are looked up in its written form. They say that a name or a string value has
one of the words, in whatever letter case (`Keywords.Named`). The flags for addresses and buttons
are set by one more thing (`Keywords.Disguised`) : a control character whose escape ends with the
first letter of a word, in front of its other letters. No escape ends with the first letter of a
word for a secret. `Keywords.flags_iff` is both halves for the three groups.
-/

namespace Wireframe.Keywords

open Chars Token

/-- Whether a name or a string value anywhere in the value has one of the words. -/
def Named (words : List String) (raw : Json) : Prop :=
  ∃ text, raw.Mentions text ∧ ∃ word ∈ words, word.toList <:+: lowercase text.toList

/-- Whether a name or a string value has what is written like one of the words. -/
def Disguised (words : List String) (raw : Json) : Prop :=
  ∃ text, raw.Mentions text ∧
    ∃ word ∈ words, ∃ d ∈ disguises word.toList, d <:+: lowercase text.toList

/-- Keywords are of small letters, and neither `null` nor a truth value nor a power has one. -/
theorem isWord_of_mem {word : String} (mem : word ∈ emailWords ++ passwordWords ++ actionWords) :
    IsWord word.toList := by
  have checked : ∀ word ∈ emailWords ++ passwordWords ++ actionWords,
      word.toList.all Char.isLower = true ∧ 2 ≤ word.toList.length ∧
        (∀ t ∈ [null, .bool true, .bool false], ¬ word.toList <:+: t.chars) ∧
        word.toList.any (· ≠ 'e') = true := by
    decide +kernel
  obtain ⟨letters, long, noBareWord, noNumeral⟩ := checked word mem
  exact ⟨List.all_eq_true.1 letters, long, noBareWord, by simpa using noNumeral⟩

/-- A group of words is found if a word of it is named or disguised. -/
theorem anyIn_compactChars_iff {words : List String}
    (keywords : words ⊆ emailWords ++ passwordWords ++ actionWords) (raw : Json) :
    anyIn words (lowercase raw.compactChars) = true ↔ Named words raw ∨ Disguised words raw := by
  have found : ∀ word ∈ words, contains word.toList (lowercase raw.compactChars) = true ↔
      ∃ text, raw.Mentions text ∧ Shown word.toList (lowercase text.toList) := fun word mem =>
    (contains_eq_true_iff _ _).trans
      (Json.infix_compactChars_iff (isWord_of_mem (keywords mem)) raw)
  rw [anyIn, List.any_eq_true]
  constructor
  · rintro ⟨word, mem, contained⟩
    obtain ⟨text, mentions, plain | disguised⟩ := (found word mem).1 contained
    · exact .inl ⟨text, mentions, word, mem, plain⟩
    · exact .inr ⟨text, mentions, word, mem, disguised⟩
  · rintro (⟨text, mentions, word, mem, plain⟩ | ⟨text, mentions, word, mem, disguised⟩)
    · exact ⟨word, mem, (found word mem).2 ⟨text, mentions, .inl plain⟩⟩
    · exact ⟨word, mem, (found word mem).2 ⟨text, mentions, .inr disguised⟩⟩

/-- No escape ends with the first letter of a word for a secret. -/
theorem not_disguised_passwordWords (raw : Json) : ¬ Disguised passwordWords raw := by
  have none : ∀ word ∈ passwordWords, disguises word.toList = [] := by decide
  rintro ⟨text, -, word, mem, d, disguise, -⟩
  rw [none word mem] at disguise
  cases disguise

/-- The flags say which groups of words are named, and for two groups also which are disguised. -/
theorem flags_iff (raw : Json) :
    ((ofJson raw).email = true ↔ Named emailWords raw ∨ Disguised emailWords raw) ∧
      ((ofJson raw).password = true ↔ Named passwordWords raw) ∧
      ((ofJson raw).action = true ↔ Named actionWords raw ∨ Disguised actionWords raw) := by
  refine ⟨anyIn_compactChars_iff (by decide) raw, ?_, anyIn_compactChars_iff (by decide) raw⟩
  exact (anyIn_compactChars_iff (by decide) raw).trans
    (or_iff_left (not_disguised_passwordWords raw))

/-- The whole of the disguises. -/
example : (emailWords ++ actionWords).flatMap (fun word => disguises word.toList) =
    ["\x0Email", "\x1Email", "\x08utton", "\x0Button", "\x1Button", "\x1Continu", "\x0Entrar",
      "\x1Entrar"].map String.toList := by
  decide

/-- A backspace is written as an escape that ends with a letter. -/
theorem backspace_is_read_as_letter :
    ¬ ((ofJson (.string "\x08utton")).action = true ↔ Named actionWords (.string "\x08utton")) := by
  have found : (ofJson (.string "\x08utton")).action = true := by decide +kernel
  have absent : ∀ word ∈ actionWords, ¬ word.toList <:+: lowercase "\x08utton".toList := by
    decide +kernel
  intro exact_flag
  obtain ⟨text, mentions, word, mem, inside⟩ := exact_flag.1 found
  cases mentions
  exact absent word mem inside

end Wireframe.Keywords
