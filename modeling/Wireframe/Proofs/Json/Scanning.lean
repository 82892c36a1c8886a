import Mathlib.Data.List.Chain
import Wireframe.Json.Printer
import Wireframe.Proofs.Chars.Digits

/-!
# Scanning written tokens

The scanner finds the tokens of a written text again. A word or a numeral is only found where a
character follows that cannot continue it, or nothing (`Token.Delimited`); all other tokens end
by themselves. Numbers are found if their numeral reads back, `Number.ReadsBack`.
-/

namespace Wireframe

/-! ## Numerals -/

namespace Number

/-- Whether the numeral of a number stands for it. -/
def ReadsBack (n : Number) : Prop :=
  ofChars? n.chars = some n

/-- Numbers that numerals stand for : integers that fit 64 bits, and doubles. -/
def Valid : Number → Prop
  | integer value => isWord value = true
  | double _ => True

/-- Only such numbers are read. -/
theorem valid_of_ofChars? {cs : List Char} {n : Number} (h : ofChars? cs = some n) : n.Valid := by
  cases n with
  | double x => trivial
  | integer value =>
    unfold ofChars? at h
    dsimp only at h
    generalize (if cs.head? = some '-' then cs.tail else cs) = unsigned at h
    generalize Nat.ofDigitChars 10 (unsigned.takeWhile Char.isDigit) 0 = magnitude at h
    generalize (if cs.head? = some '-' then (-magnitude : Int) else (magnitude : Int)) = v at h
    split at h
    · cases h
    split at h
    · next word =>
      cases h
      exact word.2.1
    split at h
    · cases h
    split at h
    · cases h
    · obtain ⟨x, -, eq⟩ := Option.map_eq_some_iff.1 h
      cases eq

theorem isNumeralChar_of_isDigit {c : Char} (h : c.isDigit = true) :
    Token.isNumeralChar c = true := by
  simp [Token.isNumeralChar, h]

/-- The characters of a text are its digits at the front and the others. -/
theorem isNumeralChar_or_mem_dropWhile {c : Char} {cs : List Char} (mem : c ∈ cs) :
    Token.isNumeralChar c = true ∨ c ∈ cs.dropWhile Char.isDigit := by
  rw [← List.takeWhile_append_dropWhile (p := Char.isDigit) (l := cs), List.mem_append] at mem
  rcases mem with digit | other
  · exact .inl (isNumeralChar_of_isDigit (List.all_eq_true.1 List.all_takeWhile c digit))
  · exact .inr other

/-- The characters of a fraction are those of a numeral. -/
theorem isNumeralChar_of_fraction? {cs digits rest : List Char}
    (h : fraction? cs = some (digits, rest)) {c : Char} (mem : c ∈ cs) :
    Token.isNumeralChar c = true ∨ c ∈ rest := by
  unfold fraction? at h
  split at h
  · next tail =>
    by_cases noDigits : tail.takeWhile Char.isDigit = []
    · simp [noDigits] at h
    obtain ⟨-, rfl⟩ : _ ∧ tail.dropWhile Char.isDigit = rest := by simpa [noDigits] using h
    rcases List.mem_cons.1 mem with rfl | mem
    · exact .inl (by decide)
    · exact isNumeralChar_or_mem_dropWhile mem
  · obtain ⟨-, rfl⟩ : _ ∧ cs = rest := by simpa using h
    exact .inr mem

/-- The characters of a power are those of a numeral. -/
theorem isNumeralChar_of_power? {cs : List Char} {p : Int} (h : power? cs = some p) {c : Char}
    (mem : c ∈ cs) : Token.isNumeralChar c = true := by
  unfold power? at h
  split at h
  · next mark rest =>
    by_cases noMark : mark ≠ 'e' ∧ mark ≠ 'E'
    · simp [noMark] at h
    rw [if_neg noMark] at h
    dsimp only at h
    generalize digits_eq : (if rest.head? = some '-' ∨ rest.head? = some '+' then rest.tail
      else rest) = digits at h
    by_cases bad : digits = [] ∨ digits.any (fun c => !c.isDigit) = true
    · rw [if_pos bad] at h
      cases h
    have digit : ∀ c ∈ digits, c.isDigit = true := by
      simpa using not_or.1 bad |>.2
    rcases List.mem_cons.1 mem with rfl | mem
    · by_cases small : c = 'e'
      · subst small
        decide
      · have capital : c = 'E' := Decidable.not_not.1 fun other => noMark ⟨small, other⟩
        subst capital
        decide
    · split at digits_eq
      · next sign =>
        cases rest with
        | nil => simp at mem
        | cons first tail =>
          rcases List.mem_cons.1 mem with rfl | mem
          · simp at sign
            rcases sign with rfl | rfl <;> decide
          · exact isNumeralChar_of_isDigit (digit c (digits_eq ▸ mem))
      · exact isNumeralChar_of_isDigit (digit c (digits_eq ▸ mem))
  · simp at mem

/-- What is read as a number is digits behind a sign, and then characters of numerals. -/
theorem shape_of_ofChars? {cs : List Char} {n : Number} (h : ofChars? cs = some n) :
    ∃ sign whole rest, cs = sign ++ (whole ++ rest) ∧ (sign = [] ∨ sign = ['-']) ∧ whole ≠ [] ∧
      (∀ c ∈ whole, c.isDigit = true) ∧ ∀ c ∈ rest, Token.isNumeralChar c = true := by
  unfold ofChars? at h
  dsimp only at h
  generalize unsigned_eq : (if cs.head? = some '-' then cs.tail else cs) = unsigned at h
  obtain ⟨sign, cs_eq, sign_eq⟩ : ∃ sign, cs = sign ++ unsigned ∧ (sign = [] ∨ sign = ['-']) := by
    rw [← unsigned_eq]
    split
    · next minus =>
      obtain ⟨tail, rfl⟩ := List.head?_eq_some_iff.1 minus
      exact ⟨['-'], rfl, .inr rfl⟩
    · exact ⟨[], rfl, .inl rfl⟩
  by_cases bad : unsigned.takeWhile Char.isDigit = [] ∨
      ((unsigned.takeWhile Char.isDigit).head? = some '0' ∧
        (unsigned.takeWhile Char.isDigit).length > 1)
  · rw [if_pos bad] at h
    cases h
  rw [if_neg bad] at h
  refine ⟨sign, unsigned.takeWhile Char.isDigit, unsigned.dropWhile Char.isDigit,
    by rwa [List.takeWhile_append_dropWhile], sign_eq, (not_or.1 bad).1,
    fun c => List.all_eq_true.1 List.all_takeWhile c, fun c mem => ?_⟩
  generalize unsigned.dropWhile Char.isDigit = rest at h mem
  rw [if_neg (fun whole => by simp [whole.1] at mem)] at h
  cases fraction : fraction? rest with
  | none => simp [fraction] at h
  | some pair =>
    obtain ⟨places, rest'⟩ := pair
    rcases isNumeralChar_of_fraction? fraction mem with numeral | mem
    · exact numeral
    cases power : power? rest' with
    | none => simp [fraction, power] at h
    | some p => exact isNumeralChar_of_power? power mem

/-- All characters of what is read as a number are those of a numeral. -/
theorem isNumeralChar_of_ofChars? {cs : List Char} {n : Number} (h : ofChars? cs = some n)
    {c : Char} (mem : c ∈ cs) : Token.isNumeralChar c = true := by
  obtain ⟨sign, whole, rest, rfl, sign_eq, -, digits, others⟩ := shape_of_ofChars? h
  rcases List.mem_append.1 mem with mem | mem
  · rcases sign_eq with rfl | rfl
    · simp at mem
    · obtain rfl := List.mem_singleton.1 mem
      decide
  · rcases List.mem_append.1 mem with mem | mem
    · exact isNumeralChar_of_isDigit (digits c mem)
    · exact others c mem

/-- What is read as a number begins with a digit or a minus. -/
theorem exists_cons_of_ofChars? {cs : List Char} {n : Number} (h : ofChars? cs = some n) :
    ∃ c rest, cs = c :: rest ∧ (c.isDigit || c = '-') = true := by
  obtain ⟨sign, whole, rest, rfl, rfl | rfl, some_digit, digits, -⟩ := shape_of_ofChars? h
  · cases whole with
    | nil => exact absurd rfl some_digit
    | cons c more => exact ⟨c, more ++ rest, rfl, by simp [digits c (by simp)]⟩
  · exact ⟨'-', whole ++ rest, rfl, by decide⟩

end Number

/-! ## Tokens -/

namespace Token

/-- Texts that end the word or the numeral before them. -/
def Delimited (cs : List Char) : Prop :=
  ∀ c ∈ cs.head?, isNumeralChar c = false ∧ c.isAlpha = false

/-- Words and numerals, which do not end by themselves. -/
def isBare : Token → Bool
  | null | bool _ | number _ => true
  | _ => false

variable {σ : Type} {consume : σ → Token → Option σ}

theorem feed?_nil (scan : Scan) (state : σ) :
    feed? consume scan state [] = (finish? scan).bind fun tokens => tokens.foldlM consume state :=
  rfl

theorem feed?_cons (scan : Scan) (state : σ) (c : Char) (rest : List Char) :
    feed? consume scan state (c :: rest) = (advance? scan c).bind fun next =>
      (next.1.foldlM consume state).bind fun state => feed? consume next.2 state rest := by
  rw [feed?]
  cases advance? scan c with
  | none => rfl
  | some next =>
    obtain ⟨tokens, scan⟩ := next
    dsimp only [Option.bind_some]
    cases tokens.foldlM consume state <;> rfl

/-- A character that completes no token only changes what the scanner is in. -/
theorem feed?_cons_of_quiet {scan next : Scan} {c : Char} (quiet : advance? scan c = some ([], next))
    (state : σ) (rest : List Char) :
    feed? consume scan state (c :: rest) = feed? consume next state rest := by
  simp [feed?_cons, quiet]

/-- A token goes on to the consumer where the next character, if any, completes it. -/
theorem feed?_of_completed {scan : Scan} {t : Token} {rest : List Char} (state : σ)
    (finish_eq : finish? scan = some [t])
    (advance_eq : ∀ c ∈ rest.head?,
      advance? scan c = (begin? c).map fun next => (t :: next.1, next.2)) :
    feed? consume scan state rest =
      (consume state t).bind fun state => feed? consume .between state rest := by
  cases rest with
  | nil =>
    have nothing : finish? .between = some [] := rfl
    simp [feed?_nil, finish_eq, nothing]
  | cons c rest =>
    have between : advance? .between c = begin? c := rfl
    simp only [feed?_cons, advance_eq c rfl, between]
    cases begin? c with
    | none => simp
    | some next => simp [Option.bind_assoc]

/-! ### Words and numerals -/

/-- A word is found where it is delimited. -/
theorem feed?_word {letters : List Char} {t : Token} (word_eq : word? letters = some t)
    {rest : List Char} (delimited : Delimited rest) (state : σ) :
    feed? consume (.word letters) state rest =
      (consume state t).bind fun state => feed? consume .between state rest := by
  refine feed?_of_completed state (by simp [finish?, word_eq]) fun c head => ?_
  have letter := (delimited c head).2
  simp only [advance?, letter, word_eq]
  cases begin? c <;> rfl

/-- The characters of a numeral are collected. -/
theorem feed?_numeral_append {cs : List Char} :
    ∀ {signs : List Char}, (∀ c ∈ cs, isNumeralChar c = true) → ∀ (state : σ) (rest : List Char),
      feed? consume (.numeral signs) state (cs ++ rest) =
        feed? consume (.numeral (cs.reverse ++ signs)) state rest := by
  induction cs with
  | nil => intros; rfl
  | cons c cs ih =>
    intro signs numeral state rest
    have quiet : advance? (.numeral signs) c = some ([], .numeral (c :: signs)) := by
      simp [advance?, numeral c (by simp)]
    rw [List.cons_append, feed?_cons_of_quiet quiet,
      ih (fun c mem => numeral c (List.mem_cons_of_mem _ mem))]
    simp

/-- A digit or a minus begins a numeral. -/
theorem advance?_between_numeral {c : Char} (first : (c.isDigit || c = '-') = true) :
    advance? .between c = some ([], .numeral [c]) := by
  rw [Bool.or_eq_true, decide_eq_true_eq] at first
  rcases first with digit | rfl
  · have other : isSpace c = false ∧ punctuation? c = none ∧ c ≠ '"' :=
      Chars.of_isDigit
        (P := fun c => isSpace c = false ∧ punctuation? c = none ∧ c ≠ '"') (by decide) digit
    simp [advance?, begin?, other, digit]
  · rfl

/-- A numeral is found where it is delimited. -/
theorem feed?_number {n : Number} (back : n.ReadsBack) {rest : List Char}
    (delimited : Delimited rest) (state : σ) :
    feed? consume .between state (n.chars ++ rest) =
      (consume state (.number n)).bind fun state => feed? consume .between state rest := by
  obtain ⟨c, more, chars_eq, first⟩ := Number.exists_cons_of_ofChars? back
  have numeral : ∀ d ∈ more, isNumeralChar d = true := fun d mem =>
    Number.isNumeralChar_of_ofChars? back (chars_eq ▸ List.mem_cons_of_mem _ mem)
  have read : Number.ofChars? (more.reverse ++ [c]).reverse = some n := by
    rw [List.reverse_append, List.reverse_reverse, List.reverse_singleton, List.singleton_append,
      ← chars_eq]
    exact back
  rw [chars_eq, List.cons_append, feed?_cons_of_quiet (advance?_between_numeral first),
    feed?_numeral_append numeral]
  refine feed?_of_completed state (by rw [finish?, read]; rfl) fun d head => ?_
  have other := (delimited d head).1
  simp only [advance?, other, read]
  cases begin? d <;> rfl

/-! ### Strings -/

theorem hexValue?_hexDigit : ∀ n < 16, Chars.hexValue? (hexDigit n) = some n := by
  decide

/-- An escape with one letter is the character that it stands for. -/
theorem feed?_escaped {c letter : Char} (escaped : escaped? letter = some c)
    (noCode : letter ≠ 'u') (done : List Char) (state : σ) (rest : List Char) :
    feed? consume (.text done) state ('\\' :: letter :: rest) =
      feed? consume (.text (c :: done)) state rest := by
  have backslash : advance? (.text done) '\\' = some ([], .escape done) := rfl
  have second : advance? (.escape done) letter = some ([], .text (c :: done)) := by
    simp [advance?, noCode, escaped]
  rw [feed?_cons_of_quiet backslash, feed?_cons_of_quiet second]

/-- A code of four digits below the surrogates is the character with that code. -/
theorem feed?_code {n : Nat} (small : n < 256) (done : List Char) (state : σ)
    (rest : List Char) :
    feed? consume (.text done) state
        ('\\' :: 'u' :: '0' :: '0' :: hexDigit (n / 16) :: hexDigit (n % 16) :: rest) =
      feed? consume (.text (Char.ofNat n :: done)) state rest := by
  have backslash : advance? (.text done) '\\' = some ([], .escape done) := rfl
  have letter : advance? (.escape done) 'u' = some ([], .code done none 4 0) := rfl
  have first : advance? (.code done none 4 0) '0' = some ([], .code done none 3 0) := rfl
  have second : advance? (.code done none 3 0) '0' = some ([], .code done none 2 0) := rfl
  have third : advance? (.code done none 2 0) (hexDigit (n / 16)) =
      some ([], .code done none 1 (n / 16)) := by
    simp [advance?, hexValue?_hexDigit (n / 16) (by omega)]
  have fourth : advance? (.code done none 1 (n / 16)) (hexDigit (n % 16)) =
      some ([], .text (Char.ofNat n :: done)) := by
    have whole : n / 16 * 16 + n % 16 = n := Nat.div_add_mod' n 16
    have noSurrogate : ¬ 0xD800 ≤ n ∧ ¬ 0xDC00 ≤ n := by omega
    simp [advance?, hexValue?_hexDigit (n % 16) (by omega), whole, closeCode, noSurrogate]
  rw [feed?_cons_of_quiet backslash, feed?_cons_of_quiet letter, feed?_cons_of_quiet first,
    feed?_cons_of_quiet second, feed?_cons_of_quiet third, feed?_cons_of_quiet fourth]

/-- A character is written as an escape with one letter, as a code, or as it is. -/
theorem escapeChar_cases (c : Char) :
    (∃ letter, escaped? letter = some c ∧ letter ≠ 'u' ∧ escapeChar c = ['\\', letter]) ∨
      (c.toNat < 0x20 ∧ escapeChar c =
        ['\\', 'u', '0', '0', hexDigit (c.toNat / 16), hexDigit (c.toNat % 16)]) ∨
      (c ≠ '"' ∧ c ≠ '\\' ∧ 0x20 ≤ c.toNat ∧ escapeChar c = [c]) := by
  unfold escapeChar
  split_ifs with quote backslash backspace tab lineFeed formFeed carriageReturn control
  · exact .inl ⟨'"', by rw [quote]; rfl, by decide, rfl⟩
  · exact .inl ⟨'\\', by rw [backslash]; rfl, by decide, rfl⟩
  · exact .inl ⟨'b', by rw [backspace]; rfl, by decide, rfl⟩
  · exact .inl ⟨'t', by rw [tab]; rfl, by decide, rfl⟩
  · exact .inl ⟨'n', by rw [lineFeed]; rfl, by decide, rfl⟩
  · exact .inl ⟨'f', by rw [formFeed]; rfl, by decide, rfl⟩
  · exact .inl ⟨'r', by rw [carriageReturn]; rfl, by decide, rfl⟩
  · exact .inr (.inl ⟨control, rfl⟩)
  · exact .inr (.inr ⟨quote, backslash, Nat.not_lt.1 control, rfl⟩)

/-- The characters that a character is written as are read as that character. -/
theorem feed?_escapeChar (c : Char) (done : List Char) (state : σ) (rest : List Char) :
    feed? consume (.text done) state (escapeChar c ++ rest) =
      feed? consume (.text (c :: done)) state rest := by
  rcases escapeChar_cases c with ⟨letter, escaped, noCode, eq⟩ | ⟨control, eq⟩ |
    ⟨noQuote, noBackslash, plain, eq⟩
  · rw [eq]
    exact feed?_escaped escaped noCode done state rest
  · have code := @feed?_code _ consume c.toNat (by omega) done state rest
    rw [Char.ofNat_toNat] at code
    rw [eq]
    exact code
  · have quiet : advance? (.text done) c = some ([], .text (c :: done)) := by
      simp [advance?, noQuote, noBackslash, Nat.not_lt.2 plain]
    rw [eq]
    exact feed?_cons_of_quiet quiet state rest

/-- The characters of a string are collected. -/
theorem feed?_escaped_append : ∀ (cs done : List Char) (state : σ) (rest : List Char),
    feed? consume (.text done) state (cs.flatMap escapeChar ++ rest) =
      feed? consume (.text (cs.reverse ++ done)) state rest
  | [], _, _, _ => rfl
  | c :: cs, done, state, rest => by
    rw [List.flatMap_cons, List.append_assoc, feed?_escapeChar, feed?_escaped_append cs]
    simp

/-- A string is found, whatever follows. -/
theorem feed?_string (s : String) (state : σ) (rest : List Char) :
    feed? consume .between state (quoted s ++ rest) =
      (consume state (.string s)).bind fun state => feed? consume .between state rest := by
  have opens : advance? .between '"' = some ([], .text []) := rfl
  have closes : advance? (.text (s.toList.reverse ++ [])) '"' = some ([.string s], .between) := by
    simp [advance?]
  rw [quoted, List.cons_append, List.cons_append, List.append_assoc, feed?_cons_of_quiet opens,
    feed?_escaped_append, List.singleton_append, feed?_cons, closes]
  simp

/-! ### All tokens -/

/-- Whether the scanner finds a token again. All but numbers are found. -/
def ReadsBack : Token → Prop
  | number n => n.ReadsBack
  | _ => True

/-- A token of one character is found. -/
theorem feed?_mark {c : Char} {t : Token} (mark : advance? .between c = some ([t], .between))
    (state : σ) (rest : List Char) :
    feed? consume .between state (c :: rest) =
      (consume state t).bind fun state => feed? consume .between state rest := by
  simp [feed?_cons, mark]

/-- The letters of a word are collected. -/
theorem feed?_letters {cs : List Char} : ∀ {letters : List Char}, (∀ c ∈ cs, c.isAlpha = true) →
    ∀ (state : σ) (rest : List Char), feed? consume (.word letters) state (cs ++ rest) =
      feed? consume (.word (cs.reverse ++ letters)) state rest := by
  induction cs with
  | nil => intros; rfl
  | cons c cs ih =>
    intro letters alpha state rest
    have quiet : advance? (.word letters) c = some ([], .word (c :: letters)) := by
      simp [advance?, alpha c (by simp)]
    rw [List.cons_append, feed?_cons_of_quiet quiet,
      ih (fun c mem => alpha c (List.mem_cons_of_mem _ mem))]
    simp

/-- A written token is found, a bare one where it is delimited. -/
theorem feed?_chars {t : Token} (back : t.ReadsBack) {rest : List Char}
    (delimited : t.isBare = true → Delimited rest) (state : σ) :
    feed? consume .between state (t.chars ++ rest) =
      (consume state t).bind fun state => feed? consume .between state rest := by
  have word : ∀ (c : Char) (cs : List Char), advance? .between c = some ([], .word [c]) →
      cs.all Char.isAlpha = true → word? (cs.reverse ++ [c]) = some t → t.isBare = true →
      feed? consume .between state (c :: (cs ++ rest)) =
        (consume state t).bind fun state => feed? consume .between state rest := by
    intro c cs opens alpha word_eq bare
    rw [feed?_cons_of_quiet opens, feed?_letters (List.all_eq_true.1 alpha),
      feed?_word word_eq (delimited bare)]
  cases t with
  | null => exact word 'n' ['u', 'l', 'l'] rfl rfl rfl rfl
  | bool value =>
    cases value with
    | true => exact word 't' ['r', 'u', 'e'] rfl rfl rfl rfl
    | false => exact word 'f' ['a', 'l', 's', 'e'] rfl rfl rfl rfl
  | number n => exact feed?_number back (delimited rfl) state
  | string s => exact feed?_string s state rest
  | _ => exact feed?_mark rfl state rest

/-- No two bare tokens are neighbours. -/
def Separated (ts : List Token) : Prop :=
  ts.IsChain fun t u => t.isBare = true → u.isBare = false

/-- A token that is not bare delimits what stands before it. -/
theorem delimited_chars {t : Token} (h : t.isBare = false) (rest : List Char) :
    Delimited (t.chars ++ rest) := by
  intro c head
  cases t with
  | null | bool | number => cases h
  | string s =>
    obtain rfl : '"' = c := by simpa [chars, quoted] using head
    decide
  | _ =>
    simp only [chars, List.singleton_append, List.head?_cons, Option.mem_some] at head
    subst head
    decide

/-- The scanner hands on the tokens of a text that were written side by side. -/
theorem feed?_flatMap_chars : ∀ {ts : List Token}, Separated ts → (∀ t ∈ ts, t.ReadsBack) →
    ∀ state : σ, feed? consume .between state (ts.flatMap chars) = ts.foldlM consume state
  | [], _, _, state => rfl
  | t :: ts, separated, back, state => by
    obtain ⟨next, others⟩ := List.isChain_cons.1 separated
    have delimited : t.isBare = true → Delimited (ts.flatMap chars) := by
      intro bare
      cases ts with
      | nil => simp [Delimited]
      | cons u us => exact delimited_chars (next u rfl bare) _
    rw [List.flatMap_cons, feed?_chars (back t (by simp)) delimited, List.foldlM_cons]
    refine congrArg _ (funext fun state => ?_)
    exact feed?_flatMap_chars others (fun u mem => back u (List.mem_cons_of_mem _ mem)) state

/-! ## Numbers of a text -/

theorem word?_ne_number {letters : List Char} {n : Number} : word? letters ≠ some (number n) := by
  unfold word?
  split <;> simp

theorem not_mem_of_begin? {c : Char} {ts : List Token} {next : Scan}
    (h : begin? c = some (ts, next)) (n : Number) : number n ∉ ts := by
  unfold begin? at h
  split at h
  · cases h
    simp
  split at h
  · next token mark =>
    cases h
    unfold punctuation? at mark
    split at mark <;> cases mark <;> simp
  · split at h
    · cases h
      simp
    split at h
    · cases h
      simp
    split at h
    · cases h
      simp
    · cases h

/-- A token in front of those of the next character. -/
theorem valid_of_begin? {α : Type} {o : Option α} {f : α → Token}
    (read : ∀ a n, o = some a → f a = number n → n.Valid) {c : Char} {ts : List Token}
    {next : Scan}
    (h : (o.bind fun a => (begin? c).bind fun pair => some (f a :: pair.1, pair.2)) =
      some (ts, next))
    {n : Number} (mem : number n ∈ ts) : n.Valid := by
  simp only [Option.bind_eq_some_iff] at h
  obtain ⟨a, o_eq, ⟨tokens, scan⟩, began, pair_eq⟩ := h
  cases pair_eq
  rcases List.mem_cons.1 mem with first | mem
  · exact read a n o_eq first.symm
  · exact absurd mem (not_mem_of_begin? began n)

/-- Numbers that a character completes are valid. -/
theorem valid_of_advance? {scan next : Scan} {c : Char} {ts : List Token}
    (h : advance? scan c = some (ts, next)) {n : Number} (mem : number n ∈ ts) : n.Valid := by
  cases scan with
  | between => exact absurd mem (not_mem_of_begin? h n)
  | word letters =>
    by_cases letter : c.isAlpha = true
    · obtain ⟨rfl, -⟩ : [] = ts ∧ _ := by simpa [advance?, letter] using h
      simp at mem
    · simp only [advance?, letter] at h
      refine valid_of_begin? (o := word? letters) (f := id) ?_ h mem
      rintro a n word rfl
      exact absurd word word?_ne_number
  | numeral signs =>
    by_cases numeral : isNumeralChar c = true
    · obtain ⟨rfl, -⟩ : [] = ts ∧ _ := by simpa [advance?, numeral] using h
      simp at mem
    · simp only [advance?, numeral] at h
      refine valid_of_begin? (o := Number.ofChars? signs.reverse) (f := number) ?_ h mem
      rintro a n read token_eq
      cases token_eq
      exact Number.valid_of_ofChars? read
  | text done =>
    simp only [advance?] at h
    split at h
    · cases h
      simp at mem
    split at h
    · cases h
      simp at mem
    split at h <;> cases h
    simp at mem
  | escape done =>
    simp only [advance?] at h
    split at h
    · cases h
      simp at mem
    · obtain ⟨letter, -, pair_eq⟩ := Option.map_eq_some_iff.1 h
      cases pair_eq
      simp at mem
  | code done high missing value =>
    obtain ⟨digit, -, h⟩ := Option.bind_eq_some_iff.1 h
    dsimp only at h
    split at h
    · obtain ⟨scan, -, pair_eq⟩ := Option.map_eq_some_iff.1 h
      cases pair_eq
      simp at mem
    · cases h
      simp at mem
  | partner done high | partnerEscape done high =>
    simp only [advance?] at h
    split at h <;> cases h
    simp at mem

/-- Numbers that the end completes are valid. -/
theorem valid_of_finish? {scan : Scan} {ts : List Token} (h : finish? scan = some ts) {n : Number}
    (mem : number n ∈ ts) : n.Valid := by
  cases scan with
  | between =>
    cases h
    simp at mem
  | word letters =>
    obtain ⟨token, word, rfl⟩ := Option.map_eq_some_iff.1 h
    obtain rfl := List.mem_singleton.1 mem
    exact absurd word word?_ne_number
  | numeral signs =>
    obtain ⟨m, read, rfl⟩ := Option.map_eq_some_iff.1 h
    cases List.mem_singleton.1 mem
    exact Number.valid_of_ofChars? read
  | _ => cases h

/-- A consumer that took a text took tokens one after the other, all numbers among them valid. -/
theorem exists_tokens_of_feed? {cs : List Char} : ∀ {scan : Scan} {state final : σ},
    feed? consume scan state cs = some final →
      ∃ ts : List Token, (∀ n, number n ∈ ts → n.Valid) ∧ ts.foldlM consume state = some final := by
  induction cs with
  | nil =>
    intro scan state final h
    rw [feed?_nil] at h
    obtain ⟨ts, finish_eq, folded⟩ := Option.bind_eq_some_iff.1 h
    exact ⟨ts, fun n mem => valid_of_finish? finish_eq mem, folded⟩
  | cons c cs ih =>
    intro scan state final h
    rw [feed?_cons] at h
    obtain ⟨⟨first, next⟩, advance_eq, h⟩ := Option.bind_eq_some_iff.1 h
    obtain ⟨middle, first_eq, h⟩ := Option.bind_eq_some_iff.1 h
    obtain ⟨later, read, folded⟩ := ih h
    refine ⟨first ++ later, fun n mem => ?_, ?_⟩
    · rcases List.mem_append.1 mem with mem | mem
      · exact valid_of_advance? advance_eq mem
      · exact read n mem
    · rw [List.foldlM_append, first_eq]
      exact folded

end Token

end Wireframe
