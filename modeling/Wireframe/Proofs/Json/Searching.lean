import Mathlib.Data.List.Infix
import Wireframe.Proofs.Chars.Searching
import Wireframe.Proofs.Json.Numerals
import Wireframe.Proofs.Json.Reading

/-!
# Searching written values

The written form of a value is searched in lower case for words of small letters. What stands
between its strings parts the text, so a word is found if it stands in the written form of one of
them, names of members included (`Json.infix_compactChars_iff`). In the written form of a string
it stands if the string has it, or if the string has one of its `Token.disguises` : a control
character whose escape ends with the first letter, and the other letters behind it
(`Token.infix_escaped_iff`).
-/

namespace Wireframe

namespace Token

open Chars

/-- Texts of small letters. -/
def AreLetters (cs : List Char) : Prop :=
  ∀ c ∈ cs, c.isLower = true

theorem AreLetters.not_mem {cs : List Char} (letters : AreLetters cs) {c : Char}
    (other : c.isLower = false) : c ∉ cs := by
  intro mem
  rw [letters c mem] at other
  cases other

theorem AreLetters.suffix {cs rest : List Char} (letters : AreLetters cs) (ends : rest <:+ cs) :
    AreLetters rest :=
  fun c mem => letters c (ends.subset mem)

/-- Words of small letters that stand in no bare token. -/
structure IsWord (word : List Char) : Prop where
  letters : AreLetters word
  long : 2 ≤ word.length
  noBareWord : ∀ t ∈ [null, bool true, bool false], ¬ word <:+: t.chars
  noNumeral : ∃ c ∈ word, c ≠ 'e'

theorem IsWord.ne_nil {word : List Char} (isWord : IsWord word) : word ≠ [] := by
  rintro rfl
  exact absurd isWord.long (by simp)

/-- One character is too short for a word. -/
theorem IsWord.not_infix_singleton {word : List Char} (isWord : IsWord word) (c : Char) :
    ¬ word <:+: [c] := by
  intro inside
  have short := inside.length_le
  have long := isWord.long
  rw [List.length_singleton] at short
  omega

/-! ## Escapes -/

/-- The characters that are only written as escapes. -/
def controls : List Char :=
  (List.range 0x20).map Char.ofNat

theorem mem_controls {c : Char} : c ∈ controls ↔ c.toNat < 0x20 := by
  have small : ∀ n < 0x20, (Char.ofNat n).toNat = n := by decide
  simp only [controls, List.mem_map, List.mem_range]
  constructor
  · rintro ⟨n, below, rfl⟩
    rwa [small n below]
  · intro below
    exact ⟨c.toNat, below, Char.ofNat_toNat c⟩

/-- What is written like the word without having it : a control character whose escape ends with
the first letter, and the other letters. -/
def disguises (word : List Char) : List (List Char) :=
  (controls.filter fun c => (escapeChar c).getLast? = word.head?).map fun c => c :: word.tail

theorem mem_disguises {word d : List Char} : d ∈ disguises word ↔
    ∃ c, c.toNat < 0x20 ∧ (escapeChar c).getLast? = word.head? ∧ c :: word.tail = d := by
  simp [disguises, mem_controls, and_assoc]

/-- What stands in an escape before its last character. -/
def escapeFronts : List (List Char) :=
  [['\\'], ['\\', 'u', '0', '0', '0'], ['\\', 'u', '0', '0', '1']]

/-- A code that is neither that of a capital of ASCII nor above 191. -/
abbrev IsLowCode (n : Nat) : Prop :=
  n < 0xC0 ∧ ¬ (0x41 ≤ n ∧ n ≤ 0x5A)

/-- How a character is escaped : there is no capital in the escape, and only that of a control
character ends with a small letter. -/
structure Escaped (c : Char) (front : List Char) (last : Char) : Prop where
  chars_eq : escapeChar c = front ++ [last]
  front_mem : front ∈ escapeFronts
  low : (c :: (front ++ [last])).all (fun d => IsLowCode d.toNat) = true
  noLetter : c.isLower = false
  control : last.isLower = true → c.toNat < 0x20

/-- Only control characters, the quote and the backslash are escaped. -/
theorem special_cases {c : Char} (special : escapeChar c ≠ [c]) :
    c.toNat < 0x20 ∨ c = '"' ∨ c = '\\' := by
  unfold escapeChar at special
  split_ifs at special with quote backslash backspace tab lineFeed formFeed carriageReturn control
  · exact .inr (.inl quote)
  · exact .inr (.inr backslash)
  · exact .inl (backspace ▸ by decide)
  · exact .inl (tab ▸ by decide)
  · exact .inl (lineFeed ▸ by decide)
  · exact .inl (formFeed ▸ by decide)
  · exact .inl (carriageReturn ▸ by decide)
  · exact .inl control
  · exact absurd rfl special

/-- Control characters are escaped, without capitals. -/
theorem exists_escaped_of_control {c : Char} (control : c.toNat < 0x20) :
    ∃ front last, Escaped c front last := by
  have shapes : ∀ n < 0x20, escapeChar (Char.ofNat n) ≠ [] ∧
      (escapeChar (Char.ofNat n)).dropLast ∈ escapeFronts ∧
      (Char.ofNat n :: escapeChar (Char.ofNat n)).all (fun d => IsLowCode d.toNat) = true ∧
      (Char.ofNat n).isLower = false := by
    decide
  obtain ⟨written, front_mem, low, noLetter⟩ := of_toNat_lt
    (P := fun c => escapeChar c ≠ [] ∧ (escapeChar c).dropLast ∈ escapeFronts ∧
      (c :: escapeChar c).all (fun d => IsLowCode d.toNat) = true ∧ c.isLower = false)
    shapes control
  have chars_eq := (List.dropLast_append_getLast written).symm
  exact ⟨_, _, chars_eq, front_mem, by rwa [← chars_eq], noLetter, fun _ => control⟩

theorem exists_escaped {c : Char} (special : escapeChar c ≠ [c]) :
    ∃ front last, Escaped c front last := by
  rcases special_cases special with control | rfl | rfl
  · exact exists_escaped_of_control control
  · exact ⟨['\\'], '"', rfl, by decide, by decide, by decide, by decide⟩
  · exact ⟨['\\'], '\\', rfl, by decide, by decide, by decide, by decide⟩

namespace Escaped

variable {c last : Char} {front : List Char} (h : Escaped c front last)
include h

theorem isLowCode {d : Char} (mem : d ∈ c :: (front ++ [last])) : IsLowCode d.toNat :=
  of_decide_eq_true (List.all_eq_true.1 h.low d mem)

theorem lowercase_chars : lowercase (escapeChar c) = front ++ [last] := by
  rw [h.chars_eq]
  exact lowercase_eq_self fun d mem => h.isLowCode (List.mem_cons_of_mem _ mem)

theorem lowercaseChar_eq : lowercaseChar c = [c] :=
  have low := h.isLowCode (List.mem_cons_self ..)
  lowercaseChar_eq_self low.1 low.2

/-- No escape begins with a letter. -/
theorem exists_cons : ∃ rest, front ++ [last] = '\\' :: rest := by
  have fronts : ∀ front ∈ escapeFronts, front.head? = some '\\' := by decide
  obtain ⟨rest, rfl⟩ := List.head?_eq_some_iff.1 (fronts front h.front_mem)
  exact ⟨rest ++ [last], rfl⟩

/-- Words begin at the last character of an escape, or behind it. -/
theorem infix_iff {word text : List Char} (isWord : IsWord word) :
    word <:+: front ++ last :: text ↔ word <:+: last :: text := by
  have mark : '\\' ∉ word := isWord.letters.not_mem (by decide)
  have zero : '0' ∉ word := isWord.letters.not_mem (by decide)
  have one : '1' ∉ word := isWord.letters.not_mem (by decide)
  have short : ¬ word <:+: ['u'] := isWord.not_infix_singleton 'u'
  have mem := h.front_mem
  simp only [escapeFronts, List.mem_cons, List.not_mem_nil, or_false] at mem
  rcases mem with rfl | rfl | rfl
  · exact infix_cons_iff_of_not_mem mark
  · change word <:+: '\\' :: (['u'] ++ '0' :: '0' :: '0' :: last :: text) ↔ _
    rw [infix_cons_iff_of_not_mem mark, infix_append_cons_iff zero, or_iff_right short,
      infix_cons_iff_of_not_mem zero, infix_cons_iff_of_not_mem zero]
  · change word <:+: '\\' :: (['u'] ++ '0' :: '0' :: '1' :: last :: text) ↔ _
    rw [infix_cons_iff_of_not_mem mark, infix_append_cons_iff zero, or_iff_right short,
      infix_cons_iff_of_not_mem zero, infix_cons_iff_of_not_mem one]

end Escaped

/-! ## Strings -/

/-- Escapes do not change which small letters a string begins with. -/
theorem prefix_escaped_iff {word : List Char} (letters : AreLetters word) (cs : List Char) :
    word <+: lowercase (cs.flatMap escapeChar) ↔ word <+: lowercase cs := by
  induction cs generalizing word with
  | nil => rfl
  | cons c cs ih =>
    rw [List.flatMap_cons, lowercase_append, lowercase_cons]
    by_cases plain : escapeChar c = [c]
    · rw [plain, lowercase_singleton]
      exact prefix_append_congr fun rest ends => ih (letters.suffix ends)
    · obtain ⟨front, last, escaped⟩ := exists_escaped plain
      obtain ⟨rest, chars_eq⟩ := escaped.exists_cons
      rw [escaped.lowercase_chars, escaped.lowercaseChar_eq, chars_eq, List.cons_append,
        List.singleton_append, prefix_cons_iff_of_not_mem (letters.not_mem (by decide)),
        prefix_cons_iff_of_not_mem (letters.not_mem escaped.noLetter)]

/-- Whether a text has the word or one of its disguises. -/
def Shown (word text : List Char) : Prop :=
  word <:+: text ∨ ∃ d ∈ disguises word, d <:+: text

/-- In front of a character that is written as it is, nothing is disguised. -/
theorem infix_plain_iff {c : Char} (plain : escapeChar c = [c]) {word d text : List Char}
    (mem : d ∈ disguises word) : d <:+: lowercaseChar c ++ text ↔ d <:+: text := by
  obtain ⟨x, control, -, rfl⟩ := mem_disguises.1 mem
  refine infix_append_iff_of_head_not_mem fun inside => ?_
  obtain rfl := eq_of_mem_lowercaseChar control inside
  have escapes : ∀ n < 0x20, escapeChar (Char.ofNat n) ≠ [Char.ofNat n] := by decide
  exact of_toNat_lt (P := fun c => escapeChar c ≠ [c]) escapes control plain

/-- A character that is no letter is passed, unless it disguises the first letter. -/
theorem shown_cons_iff {word : List Char} (isWord : IsWord word) {c : Char}
    (noLetter : c.isLower = false) (text : List Char) : Shown word (c :: text) ↔
      (c :: word.tail ∈ disguises word ∧ word.tail <+: text) ∨ Shown word text := by
  have absent : c ∉ word := isWord.letters.not_mem noLetter
  rw [Shown, Shown, infix_cons_iff_of_not_mem absent]
  constructor
  · rintro (plain | ⟨d, mem, inside⟩)
    · exact .inr (.inl plain)
    · rcases List.infix_cons_iff.1 inside with begins | later
      · obtain ⟨x, -, -, rfl⟩ := mem_disguises.1 mem
        obtain rfl := (List.cons_prefix_cons.1 begins).1
        exact .inl ⟨mem, (List.cons_prefix_cons.1 begins).2⟩
      · exact .inr (.inr ⟨d, mem, later⟩)
  · rintro (⟨mem, begins⟩ | plain | ⟨d, mem, inside⟩)
    · exact .inr ⟨_, mem, (List.cons_prefix_cons.2 ⟨rfl, begins⟩).isInfix⟩
    · exact .inl plain
    · exact .inr ⟨d, mem, inside.trans (List.infix_cons List.infix_rfl)⟩

/-- An escape disguises the letter that it ends with. -/
theorem Escaped.mem_disguises_iff {c last x : Char} {front word : List Char}
    (h : Escaped c front last) (letter : x.isLower = true) :
    c :: word ∈ disguises (x :: word) ↔ x = last := by
  have ends : (escapeChar c).getLast? = some last := by
    rw [h.chars_eq, List.getLast?_concat]
  rw [mem_disguises]
  constructor
  · rintro ⟨d, -, ends', eq⟩
    obtain rfl := (List.cons.inj eq).1
    exact Option.some_inj.1 (ends'.symm.trans ends)
  · rintro rfl
    exact ⟨c, h.control letter, ends, rfl⟩

/-- In the written form of a string a word stands if the string shows it. -/
theorem infix_escaped_iff {word : List Char} (isWord : IsWord word) (cs : List Char) :
    word <:+: lowercase (cs.flatMap escapeChar) ↔ Shown word (lowercase cs) := by
  induction cs with
  | nil => simp [Shown, lowercase, mem_disguises]
  | cons c cs ih =>
    rw [List.flatMap_cons, lowercase_append, lowercase_cons]
    by_cases plain : escapeChar c = [c]
    · -- a word may begin in the small form of `c`, which is the same on both sides
      have disguised : (∃ d ∈ disguises word, d <:+: lowercaseChar c ++ lowercase cs) ↔
          ∃ d ∈ disguises word, d <:+: lowercase cs :=
        exists_congr fun d => and_congr_right (infix_plain_iff plain)
      rw [plain, lowercase_singleton, Shown, disguised]
      exact infix_append_congr
        (fun rest ends => prefix_escaped_iff (isWord.letters.suffix ends) cs) ih
    · -- of an escape only its last character can be that of a word
      obtain ⟨front, last, escaped⟩ := exists_escaped plain
      rw [escaped.lowercase_chars, escaped.lowercaseChar_eq, List.append_assoc,
        List.singleton_append, List.singleton_append, escaped.infix_iff isWord,
        List.infix_cons_iff, ih, shown_cons_iff isWord escaped.noLetter]
      refine or_congr_left ?_
      cases word with
      | nil => exact absurd isWord.long (by simp)
      | cons x word =>
        rw [List.cons_prefix_cons, List.tail_cons,
          escaped.mem_disguises_iff (isWord.letters x (List.mem_cons_self ..)),
          prefix_escaped_iff (isWord.letters.suffix (List.suffix_cons ..))]

/-! ## Tokens -/

theorem isNumeralChar_of_mem_chars {n : Number} {c : Char} (mem : c ∈ n.chars) :
    isNumeralChar c = true := by
  cases n with
  | double x =>
    have valid : (Number.double x).Valid := trivial
    exact Number.isNumeralChar_of_ofChars? valid.readsBack mem
  | integer z =>
    have digit : ∀ c ∈ Layout.digitChars z.natAbs, isNumeralChar c = true :=
      fun c mem => Number.isNumeralChar_of_isDigit (isDigit_of_mem_digitChars mem)
    rw [Number.chars, Number.integerChars] at mem
    split at mem
    · rcases List.mem_cons.1 mem with rfl | mem
      · decide
      · exact digit c mem
    · exact digit c mem

/-- The one small letter of numerals is that of the power. -/
theorem eq_of_mem_lowercaseChar_numeral {c d : Char} (numeral : isNumeralChar c = true)
    (mem : d ∈ lowercaseChar c) (letter : d.isLower = true) : d = 'e' := by
  have digits : ∀ n < 10, lowercaseChar (Nat.digitChar n) = [Nat.digitChar n] ∧
      (Nat.digitChar n).isLower = false := by
    decide +kernel
  have small : lowercaseChar 'e' = ['e'] := by decide +kernel
  have capital : lowercaseChar 'E' = ['e'] := by decide +kernel
  have quiet : lowercaseChar c = [c] ∧ c.isLower = false → d = 'e' := by
    rintro ⟨self, noLetter⟩
    rw [self, List.mem_singleton] at mem
    rw [mem, noLetter] at letter
    cases letter
  simp only [isNumeralChar, Bool.or_eq_true, decide_eq_true_eq, or_assoc] at numeral
  rcases numeral with digit | rfl | rfl | rfl | rfl | rfl
  · exact quiet (of_isDigit (P := fun c => lowercaseChar c = [c] ∧ c.isLower = false) digits digit)
  · exact quiet (by decide +kernel)
  · exact quiet (by decide +kernel)
  · exact quiet (by decide +kernel)
  · rwa [small, List.mem_singleton] at mem
  · rwa [capital, List.mem_singleton] at mem

/-- No word stands in a token that is no string. -/
theorem not_infix_chars {word : List Char} (isWord : IsWord word) {t : Token}
    (bare : t.isBare = true) : ¬ word <:+: lowercase t.chars := by
  have small : ∀ t ∈ [null, bool true, bool false], lowercase t.chars = t.chars := by
    decide +kernel
  intro inside
  cases t with
  | null =>
    rw [small null (by simp)] at inside
    exact isWord.noBareWord null (by simp) inside
  | bool value =>
    have mem : bool value ∈ [null, bool true, bool false] := by cases value <;> simp
    rw [small _ mem] at inside
    exact isWord.noBareWord _ mem inside
  | number n =>
    obtain ⟨c, mem, other⟩ := isWord.noNumeral
    obtain ⟨d, written, from_d⟩ := List.mem_flatMap.1 (inside.subset mem)
    exact other (eq_of_mem_lowercaseChar_numeral (isNumeralChar_of_mem_chars written) from_d
      (isWord.letters c mem))
  | _ => cases bare

theorem lowercase_quoted (s : String) :
    lowercase (quoted s) = '"' :: lowercase (s.toList.flatMap escapeChar) ++ ['"'] := by
  have quote : lowercaseChar '"' = ['"'] := by decide +kernel
  rw [quoted, List.cons_append, lowercase_cons, lowercase_append, lowercase_singleton, quote,
    List.singleton_append, List.cons_append]

/-- Tokens between strings that end by themselves are marks. -/
theorem exists_chars_eq_mark {t : Token} (ends : t.isBare = false) (noString : ∀ s, t ≠ .string s) :
    ∃ mark : Char, mark.isLower = false ∧ lowercase t.chars = [mark] := by
  cases t with
  | null | bool | number => cases ends
  | string s => exact absurd rfl (noString s)
  | openArray => exact ⟨'[', by decide +kernel⟩
  | closeArray => exact ⟨']', by decide +kernel⟩
  | openObject => exact ⟨'\x7b', by decide +kernel⟩
  | closeObject => exact ⟨'\x7d', by decide +kernel⟩
  | comma => exact ⟨',', by decide +kernel⟩
  | colon => exact ⟨':', by decide +kernel⟩

/-- A token that ends by itself begins and ends with a mark. -/
theorem exists_mark {t : Token} (ends : t.isBare = false) : ∃ mark : Char, mark.isLower = false ∧
    (lowercase t.chars).head? = some mark ∧ (lowercase t.chars).getLast? = some mark := by
  by_cases text : ∃ s, t = .string s
  · obtain ⟨s, rfl⟩ := text
    rw [chars, lowercase_quoted]
    exact ⟨'"', rfl, rfl, List.getLast?_concat⟩
  · obtain ⟨mark, noLetter, written⟩ := exists_chars_eq_mark ends (not_exists.1 text)
    exact ⟨mark, noLetter, by rw [written]; rfl, by rw [written]; rfl⟩

/-- A word in a token is shown by a string. -/
theorem infix_chars_iff {word : List Char} (isWord : IsWord word) (t : Token) :
    word <:+: lowercase t.chars ↔ ∃ s, t = .string s ∧ Shown word (lowercase s.toList) := by
  by_cases text : ∃ s, t = .string s
  · obtain ⟨s, rfl⟩ := text
    have quote : '"' ∉ word := isWord.letters.not_mem (by decide)
    have empty : ¬ word <:+: [] := fun inside => isWord.ne_nil (List.infix_nil.1 inside)
    rw [chars, lowercase_quoted, List.cons_append, infix_cons_iff_of_not_mem quote,
      infix_append_cons_iff quote, or_iff_left empty, infix_escaped_iff isWord]
    simp
  · have absent : ¬ ∃ s, t = .string s ∧ Shown word (lowercase s.toList) := by
      rintro ⟨s, eq, -⟩
      exact text ⟨s, eq⟩
    refine iff_of_false ?_ absent
    by_cases bare : t.isBare = true
    · exact not_infix_chars isWord bare
    · obtain ⟨mark, -, written⟩ :=
        exists_chars_eq_mark (Bool.eq_false_of_not_eq_true bare) (not_exists.1 text)
      rw [written]
      exact isWord.not_infix_singleton mark

/-- Words stand within one token. -/
theorem infix_flatMap_chars_iff {word : List Char} (isWord : IsWord word) :
    ∀ {ts : List Token}, Separated ts →
      (word <:+: lowercase (ts.flatMap chars) ↔ ∃ t ∈ ts, word <:+: lowercase t.chars)
  | [], _ => by simp [lowercase, isWord.ne_nil]
  | [t], _ => by simp [lowercase]
  | t :: u :: ts, separated => by
    have later := infix_flatMap_chars_iff isWord (List.isChain_cons.1 separated).2
    -- of two neighbours one ends by itself, and its mark parts them
    have parted : word <:+: lowercase t.chars ++ lowercase ((u :: ts).flatMap chars) ↔
        word <:+: lowercase t.chars ∨ word <:+: lowercase ((u :: ts).flatMap chars) := by
      by_cases bare : t.isBare = true
      · obtain ⟨mark, noLetter, first, -⟩ :=
          exists_mark ((List.isChain_cons_cons.1 separated).1 bare)
        refine infix_append_iff_of_head? (isWord.letters.not_mem noLetter) ?_
        rw [List.flatMap_cons, lowercase_append, List.head?_append, first, Option.some_or]
      · obtain ⟨mark, noLetter, -, last⟩ := exists_mark (Bool.eq_false_of_not_eq_true bare)
        exact infix_append_iff_of_getLast? (isWord.letters.not_mem noLetter) last
    rw [List.flatMap_cons, lowercase_append, parted, later]
    simp only [List.exists_mem_cons_iff]

end Token

/-! ## Values -/

namespace Json

open Token

/-- Whether a text is one of the names and string values that stand somewhere in a value. -/
inductive Mentions (text : String) : Json → Prop
  | value : Mentions text (.string text)
  | item {items : List Json} {item : Json} (mem : item ∈ items) (h : Mentions text item) :
    Mentions text (.array items)
  | name {members : Members} {value : Json} (mem : (text, value) ∈ members) :
    Mentions text (.object members)
  | member {members : Members} {m : String × Json} (mem : m ∈ members) (h : Mentions text m.2) :
    Mentions text (.object members)

/-- A value is written with the strings that it mentions. -/
theorem string_mem_tokens {text : String} {j : Json} :
    .string text ∈ tokens j ↔ j.Mentions text := by
  induction j using Json.induction with
  | null | bool | number =>
    refine iff_of_false (by simp [tokens]) fun h => ?_
    cases h
  | string value =>
    constructor
    · intro mem
      obtain rfl : text = value := by simpa [tokens] using mem
      exact .value
    · rintro ⟨⟩
      simp [tokens]
  | array items ih =>
    have inside : .string text ∈ tokens (.array items) ↔
        ∃ item ∈ items, .string text ∈ tokens item := by
      cases items <;> simp [tokens, tokensItems, tokensMoreItems_eq]
    rw [inside]
    constructor
    · rintro ⟨item, mem, within⟩
      exact .item mem ((ih item mem).1 within)
    · rintro (_ | ⟨mem, h⟩)
      exact ⟨_, mem, (ih _ mem).2 h⟩
  | object members ih =>
    have inside : .string text ∈ tokens (.object members) ↔
        ∃ m ∈ members, text = m.1 ∨ .string text ∈ tokens m.2 := by
      cases members <;> simp [tokens, tokensMembers, tokensMoreMembers_eq, or_assoc]
    rw [inside]
    constructor
    · rintro ⟨⟨name, value⟩, mem, rfl | within⟩
      · exact .name mem
      · exact .member mem ((ih _ mem).1 within)
    · rintro (_ | _ | mem | ⟨mem, h⟩)
      · exact ⟨_, mem, .inl rfl⟩
      · exact ⟨_, mem, .inr ((ih _ mem).2 h)⟩

/-- A word stands in the written form of a value if a string that the value mentions shows it. -/
theorem infix_compactChars_iff {word : List Char} (isWord : IsWord word) (j : Json) :
    word <:+: Chars.lowercase j.compactChars ↔
      ∃ text, j.Mentions text ∧ Shown word (Chars.lowercase text.toList) := by
  have separated : Separated (tokens j) := by
    simpa using j.keepsApart [] List.IsChain.nil (by simp)
  rw [compactChars, infix_flatMap_chars_iff isWord separated]
  simp only [infix_chars_iff isWord, ← string_mem_tokens]
  constructor
  · rintro ⟨_, mem, text, rfl, shown⟩
    exact ⟨text, mem, shown⟩
  · rintro ⟨text, mem, shown⟩
    exact ⟨_, mem, text, rfl, shown⟩

end Json

end Wireframe
