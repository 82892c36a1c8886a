import Mathlib.Data.Bool.AllAny
import Mathlib.Tactic.SplitIfs
import Wireframe.Proofs.Screen.Entities

/-!
# Reading pages

`readPage?` reads a page character by character, without knowing how it was written. It gives the
tags with their attributes and the characters between them, and refuses what it does not know. No
character is lost (`readPage?_chars`).

What is written of a tree is read as the tokens of that tree (`Markup.readPage?_chars`), whatever
stands in its texts and values. Each tag is closed where the tree says so
(`Markup.nested_tokens`), and what reads as text was escaped (`Markup.plain_tokens`).
-/

namespace Wireframe

/-- An attribute in a page, as it stands there. -/
structure PageAttribute where
  name : List Char
  value : Option (List Char)
deriving DecidableEq

/-- What a reader of a page comes upon. Characters outside of tags are taken one by one. -/
inductive PageToken where
  | character (c : Char)
  | opens (name : List Char) (attributes : List PageAttribute)
  | closes (name : List Char)
deriving DecidableEq

/-- The characters of an attribute behind its blank. -/
def PageAttribute.chars (a : PageAttribute) : List Char :=
  ' ' :: a.name ++
    match a.value with
    | some value => '=' :: '"' :: value ++ ['"']
    | none => []

/-- An attribute apart from what its value is. -/
def PageAttribute.bare (a : PageAttribute) : PageAttribute :=
  ⟨a.name, a.value.map fun _ => []⟩

namespace PageToken

/-- The characters of a token. -/
def chars : PageToken → List Char
  | character c => [c]
  | opens name attributes => '<' :: name ++ attributes.flatMap PageAttribute.chars ++ ['>']
  | closes name => '<' :: '/' :: name ++ ['>']

/-- A tag apart from what the values of its attributes are. -/
def bare? : PageToken → Option PageToken
  | character _ => none
  | opens name attributes => some (opens name (attributes.map PageAttribute.bare))
  | closes name => some (closes name)

/-- The tags in a row of tokens. -/
def tags (tokens : List PageToken) : List PageToken :=
  tokens.filterMap bare?

/-- Characters that may end a text or a value. -/
def marks : List Char :=
  ['<', '>', '"', '\'']

/-- The characters outside of names. -/
def content : PageToken → List Char
  | character c => [c]
  | opens _ attributes => attributes.flatMap fun a => a.value.getD []
  | closes _ => []

/-- Tags that are not closed. -/
def voidNames : List (List Char) :=
  ["input".toList, "img".toList]

/-- Whether all that is opened is closed in order, where some tags are open already. -/
def nested : List (List Char) → List PageToken → Bool
  | opened, [] => opened = []
  | opened, character _ :: rest => nested opened rest
  | opened, opens name _ :: rest =>
    nested (if name ∈ voidNames then opened else name :: opened) rest
  | [], closes _ :: _ => false
  | innermost :: opened, closes name :: rest => name = innermost && nested opened rest

end PageToken

/-- How far a reader is. -/
inductive PageScan where
  /-- Outside of tags. -/
  | between
  /-- Behind `<`. -/
  | bracket
  | opening (name : List Char)
  | closing (name : List Char)
  | naming (tag : List Char) (before : List PageAttribute) (name : List Char)
  /-- Behind `=`. -/
  | assigned (tag : List Char) (before : List PageAttribute) (name : List Char)
  | value (tag : List Char) (before : List PageAttribute) (name value : List Char)
  /-- Behind a value. -/
  | behind (tag : List Char) (attributes : List PageAttribute)

/-- Characters of names of tags and attributes. -/
def isNameChar (c : Char) : Bool :=
  c.isAlphanum || c == '-'

namespace PageScan

/-- Behind a name or a value the tag ends or goes on with an attribute. -/
def leave? (tag : List Char) (attributes : List PageAttribute) (c : Char) :
    Option (List PageToken × PageScan) :=
  if c = '>' then some ([.opens tag attributes], between)
  else if c = ' ' then some ([], naming tag attributes [])
  else none

/-- One character is read. -/
def step? : PageScan → Char → Option (List PageToken × PageScan)
  | between, c => some (if c = '<' then ([], bracket) else ([.character c], between))
  | bracket, c =>
    if c = '/' then some ([], closing [])
    else if isNameChar c then some ([], opening [c])
    else none
  | opening name, c =>
    if isNameChar c then some ([], opening (name ++ [c])) else leave? name [] c
  | closing name, c =>
    if isNameChar c then some ([], closing (name ++ [c]))
    else if c = '>' ∧ name ≠ [] then some ([.closes name], between)
    else none
  | naming tag before name, c =>
    if isNameChar c then some ([], naming tag before (name ++ [c]))
    else if name = [] then none
    else if c = '=' then some ([], assigned tag before name)
    else leave? tag (before ++ [⟨name, none⟩]) c
  | assigned tag before name, c => if c = '"' then some ([], value tag before name []) else none
  | value tag before name chars, c =>
    some ([], if c = '"' then behind tag (before ++ [⟨name, some chars⟩])
      else value tag before name (chars ++ [c]))
  | behind tag attributes, c => leave? tag attributes c

/-- What is read from a part of a page, and how far the reader is then. -/
def scan (s : PageScan) : List Char → Option (List PageToken × PageScan)
  | [] => some ([], s)
  | c :: cs => do
    let (first, next) ← s.step? c
    let (rest, last) ← next.scan cs
    return (first ++ rest, last)

end PageScan

/-- The tokens of a page, if it can be read and no tag is left unfinished. -/
def readPage? (cs : List Char) : Option (List PageToken) :=
  match PageScan.between.scan cs with
  | some (tokens, .between) => some tokens
  | _ => none

/-! ## No character is lost -/

namespace PageScan

/-- What a reader has seen of a tag that is not finished. -/
def pending : PageScan → List Char
  | between => []
  | bracket => ['<']
  | opening name => '<' :: name
  | closing name => '<' :: '/' :: name
  | naming tag before name =>
    '<' :: tag ++ before.flatMap PageAttribute.chars ++ ' ' :: name
  | assigned tag before name =>
    '<' :: tag ++ before.flatMap PageAttribute.chars ++ ' ' :: name ++ ['=']
  | value tag before name chars =>
    '<' :: tag ++ before.flatMap PageAttribute.chars ++ ' ' :: name ++ '=' :: '"' :: chars
  | behind tag attributes => '<' :: tag ++ attributes.flatMap PageAttribute.chars

variable {s next : PageScan} {c : Char} {cs : List Char} {tokens : List PageToken}

theorem leave?_chars {tag : List Char} {attributes : List PageAttribute}
    (left : leave? tag attributes c = some (tokens, next)) :
    (behind tag attributes).pending ++ [c] = tokens.flatMap PageToken.chars ++ next.pending := by
  unfold leave? at left
  split_ifs at left with ends blank
  · cases left
    simp [pending, PageToken.chars, ends]
  · cases left
    simp [pending, blank]

/-- What was seen before a character and the character are in the tokens or still pending. -/
theorem step?_chars (read : s.step? c = some (tokens, next)) :
    s.pending ++ [c] = tokens.flatMap PageToken.chars ++ next.pending := by
  cases s with
  | between =>
    rw [step?] at read
    split_ifs at read with lt <;> cases read
    · simp [pending, lt]
    · simp [pending, PageToken.chars]
  | bracket =>
    rw [step?] at read
    split_ifs at read with slash <;> cases read
    · simp [pending, slash]
    · simp [pending]
  | opening name =>
    rw [step?] at read
    split_ifs at read with more
    · cases read
      simp [pending]
    · simpa [pending] using leave?_chars read
  | closing name =>
    rw [step?] at read
    split_ifs at read with more ends <;> cases read
    · simp [pending]
    · simp [pending, PageToken.chars, ends.1]
  | naming tag before name =>
    rw [step?] at read
    split_ifs at read with more empty equals
    · cases read
      simp [pending]
    · cases read
      simp [pending, equals]
    · simpa [pending, PageAttribute.chars] using leave?_chars read
  | assigned tag before name =>
    rw [step?] at read
    split_ifs at read with quote
    cases read
    simp [pending, quote]
  | value tag before name chars =>
    rw [step?] at read
    split_ifs at read with quote <;> cases read
    · simp [pending, PageAttribute.chars, quote]
    · simp [pending]
  | behind tag attributes => exact leave?_chars read

theorem scan_cons (s : PageScan) (c : Char) (cs : List Char) :
    s.scan (c :: cs) = (s.step? c).bind fun p =>
      (p.2.scan cs).map fun q => (p.1 ++ q.1, q.2) := by
  simp only [scan]
  cases s.step? c with
  | none => rfl
  | some p => cases h : p.2.scan cs <;> simp [h]

/-- The tokens of a part are written as the part, apart from what is pending before and after. -/
theorem scan_chars (read : s.scan cs = some (tokens, next)) :
    s.pending ++ cs = tokens.flatMap PageToken.chars ++ next.pending := by
  induction cs generalizing s tokens with
  | nil =>
    obtain ⟨rfl, rfl⟩ := by simpa [scan] using read
    simp
  | cons c cs ih =>
    rw [scan_cons, Option.bind_eq_some_iff] at read
    obtain ⟨⟨first, s'⟩, step, read⟩ := read
    obtain ⟨⟨rest, last⟩, later, eq⟩ := Option.map_eq_some_iff.1 read
    cases eq
    calc s.pending ++ c :: cs = s.pending ++ [c] ++ cs := by simp
      _ = first.flatMap PageToken.chars ++ (s'.pending ++ cs) := by
        rw [step?_chars step, List.append_assoc]
      _ = _ := by rw [ih later, List.flatMap_append, List.append_assoc]

end PageScan

/-- A page consists of its tokens. -/
theorem readPage?_chars {cs : List Char} {tokens : List PageToken}
    (read : readPage? cs = some tokens) : tokens.flatMap PageToken.chars = cs := by
  unfold readPage? at read
  split at read
  case h_1 scanned =>
    obtain rfl := Option.some.inj read
    simpa [PageScan.pending] using (PageScan.scan_chars scanned).symm
  case h_2 => nomatch read

example : readPage? "<p id=\"a\">&lt;</p>".toList = some
    [.opens ['p'] [⟨['i', 'd'], some ['a']⟩], .character '&', .character 'l', .character 't',
      .character ';', .closes ['p']] := by
  decide

/-! ## Escaped text -/

/-- Escaped text ends neither a text nor a value. -/
theorem mem_escapeChars {cs : List Char} {d : Char} (mem : d ∈ escapeChars cs) :
    d ∉ PageToken.marks :=
  (isEscaped_escapeChars cs).unmarked d mem

/-! ## What is written is read -/

/-- The names that a reader takes. -/
def IsName (cs : List Char) : Prop :=
  cs ≠ [] ∧ ∀ c ∈ cs, isNameChar c = true

instance (cs : List Char) : Decidable (IsName cs) :=
  decidable_of_iff (cs ≠ [] ∧ cs.all isNameChar = true) (by simp [IsName])

theorem isName_tag (tag : Tag) : IsName tag.name.toList := by
  cases tag <;> decide

theorem isName_voidTag (tag : VoidTag) : IsName tag.name.toList := by
  cases tag <;> decide

/-- An attribute with a name that a reader takes. -/
def Attribute.IsNamed (a : Attribute) : Prop :=
  IsName a.name.toList

/-- An attribute as it is read. -/
def Attribute.read (a : Attribute) : PageAttribute :=
  ⟨a.name.toList, a.value.map fun value => escapeChars value.toList⟩

namespace PageScan

variable {s s' s'' : PageScan} {cs ds : List Char} {tokens tokens' : List PageToken}

/-- A part is read and then another. -/
theorem scan_append (first : s.scan cs = some (tokens, s'))
    (second : s'.scan ds = some (tokens', s'')) :
    s.scan (cs ++ ds) = some (tokens ++ tokens', s'') := by
  induction cs generalizing s tokens with
  | nil =>
    obtain ⟨rfl, rfl⟩ : [] = tokens ∧ s = s' := by simpa [scan] using first
    simpa using second
  | cons c cs ih =>
    rw [scan_cons, Option.bind_eq_some_iff] at first
    obtain ⟨⟨now, next⟩, step, first⟩ := first
    obtain ⟨⟨later, last⟩, read, eq⟩ := Option.map_eq_some_iff.1 first
    cases eq
    rw [List.cons_append, scan_cons, step, Option.bind_some, ih read, Option.map_some,
      List.append_assoc]

theorem scan_singleton {c : Char} (step : s.step? c = some (tokens, s')) :
    s.scan [c] = some (tokens, s') := by
  rw [scan_cons, step]
  simp [scan]

/-- Characters that are only remembered. -/
theorem scan_remembered {P : Char → Prop} (state : List Char → PageScan)
    (step : ∀ seen c, P c → (state seen).step? c = some ([], state (seen ++ [c])))
    (seen : List Char) (all : ∀ c ∈ cs, P c) :
    (state seen).scan cs = some ([], state (seen ++ cs)) := by
  induction cs generalizing seen with
  | nil => simp [scan]
  | cons c cs ih =>
    rw [scan_cons, step seen c (all c List.mem_cons_self), Option.bind_some,
      ih (seen ++ [c]) fun d mem => all d (List.mem_cons_of_mem c mem)]
    simp

/-- A reader that stands behind a name or a value. -/
def Leaves (s : PageScan) (tag : List Char) (attributes : List PageAttribute) : Prop :=
  ∀ c, c = '>' ∨ c = ' ' → s.step? c = leave? tag attributes c

theorem leaves_opening (name : List Char) : (opening name).Leaves name [] := by
  rintro c (rfl | rfl) <;> rfl

theorem leaves_naming {tag name : List Char} {before : List PageAttribute} (some_name : name ≠ []) :
    (naming tag before name).Leaves tag (before ++ [⟨name, none⟩]) := by
  rintro c (rfl | rfl) <;> exact if_neg some_name

theorem leaves_behind (tag : List Char) (attributes : List PageAttribute) :
    (behind tag attributes).Leaves tag attributes :=
  fun _ _ => rfl

/-- A value is read up to the quote behind it. -/
theorem scan_value (tag : List Char) (before : List PageAttribute) (name : List Char)
    {seen : List Char} (unquoted : '"' ∉ seen) :
    (value tag before name []).scan (seen ++ ['"']) =
      some ([], behind tag (before ++ [⟨name, some seen⟩])) := by
  have valued : (value tag before name []).scan seen = some ([], value tag before name seen) :=
    scan_remembered (value tag before name) (fun _ _ other => by rw [step?, if_neg other])
      [] fun _ mem => by rintro rfl; exact unquoted mem
  have ended : (value tag before name seen).scan ['"'] =
      some ([], behind tag (before ++ [⟨name, some seen⟩])) :=
    scan_singleton rfl
  exact scan_append valued ended

/-- An attribute is read, whatever its value is. -/
theorem exists_scan_attribute {tag : List Char} {before : List PageAttribute}
    (leaves : s.Leaves tag before) {a : Attribute} (isNamed : a.IsNamed) :
    ∃ s', s.scan a.chars = some ([], s') ∧ s'.Leaves tag (before ++ [a.read]) := by
  have blank : s.scan [' '] = some ([], naming tag before []) :=
    scan_singleton (leaves ' ' (.inr rfl))
  have called : (naming tag before []).scan a.name.toList =
      some ([], naming tag before a.name.toList) :=
    scan_remembered (naming tag before) (fun _ _ isChar => if_pos isChar) [] isNamed.2
  have named := scan_append blank called
  obtain ⟨name, _ | text⟩ := a
  · exact ⟨_, by simpa [Attribute.chars] using named, leaves_naming isNamed.1⟩
  · have equals : (naming tag before name.toList).step? '=' =
        some ([], assigned tag before name.toList) :=
      if_neg isNamed.1
    have quote : (assigned tag before name.toList).step? '"' =
        some ([], value tag before name.toList []) := rfl
    have quoted := scan_append (scan_singleton equals) (scan_singleton quote)
    have unquoted : '"' ∉ escapeChars text.toList := fun mem => mem_escapeChars mem (by decide)
    exact ⟨_, by simpa [Attribute.chars, Attribute.read] using
      scan_append named (scan_append quoted (scan_value tag before name.toList unquoted)),
      leaves_behind _ _⟩

/-- Attributes are read, and the end of the tag. -/
theorem scan_attributes {tag : List Char} {before : List PageAttribute}
    (leaves : s.Leaves tag before) {attributes : List Attribute}
    (areNamed : ∀ a ∈ attributes, a.IsNamed) :
    s.scan (attributes.flatMap Attribute.chars ++ ['>']) =
      some ([.opens tag (before ++ attributes.map Attribute.read)], between) := by
  induction attributes generalizing s before with
  | nil => simpa using scan_singleton (leaves '>' (.inl rfl))
  | cons a rest ih =>
    obtain ⟨s', read, leaves⟩ := exists_scan_attribute leaves (areNamed a List.mem_cons_self)
    simpa using scan_append read (ih leaves fun b mem => areNamed b (List.mem_cons_of_mem a mem))

theorem scan_openChars {name : String} {attributes : List Attribute} (isName : IsName name.toList)
    (areNamed : ∀ a ∈ attributes, a.IsNamed) :
    between.scan (Markup.openChars name attributes) =
      some ([.opens name.toList (attributes.map Attribute.read)], between) := by
  have called : bracket.scan name.toList = some ([], opening name.toList) := by
    obtain ⟨c, cs, eq⟩ := List.exists_cons_of_ne_nil isName.1
    have areChars := isName.2
    rw [eq] at areChars ⊢
    have isChar := areChars c List.mem_cons_self
    have first : bracket.step? c = some ([], opening [c]) := by
      rw [step?, if_neg (by rintro rfl; exact absurd isChar (by decide)), if_pos isChar]
    have rest := scan_remembered opening (fun _ _ isChar => if_pos isChar) [c] fun d mem =>
      areChars d (List.mem_cons_of_mem c mem)
    exact scan_append (scan_singleton first) rest
  have begun : between.scan ['<'] = some ([], bracket) := rfl
  simpa [Markup.openChars] using
    scan_append begun (scan_append called (scan_attributes (leaves_opening _) areNamed))

theorem scan_closeChars {name : String} (isName : IsName name.toList) :
    between.scan (Markup.closeChars name) = some ([.closes name.toList], between) := by
  have bracket : between.scan ['<', '/'] = some ([], closing []) := rfl
  have called : (closing []).scan name.toList = some ([], closing name.toList) :=
    scan_remembered closing (fun _ _ isChar => if_pos isChar) [] isName.2
  have ended : (closing name.toList).scan ['>'] = some ([.closes name.toList], between) :=
    scan_singleton (if_pos ⟨rfl, isName.1⟩)
  simpa [Markup.closeChars] using scan_append bracket (scan_append called ended)

/-- What stands between tags is read as it stands. -/
theorem scan_between (plain : '<' ∉ cs) : between.scan cs = some (cs.map .character, between) := by
  induction cs with
  | nil => rfl
  | cons c cs ih =>
    rw [List.mem_cons, not_or] at plain
    have first : between.step? c = some ([.character c], between) := by
      rw [step?, if_neg (Ne.symm plain.1)]
    exact scan_append (scan_singleton first) (ih plain.2)

end PageScan

namespace Markup

mutual

/-- Whether a reader takes the names of all attributes. -/
def HasNames : Markup → Prop
  | text _ => True
  | void _ attributes => ∀ a ∈ attributes, a.IsNamed
  | element _ attributes content => (∀ a ∈ attributes, a.IsNamed) ∧ HaveNames content

/-- Whether a reader takes the names of all attributes in pieces side by side. -/
def HaveNames : List Markup → Prop
  | [] => True
  | piece :: rest => HasNames piece ∧ HaveNames rest

end

mutual

/-- The tokens of a piece. -/
def tokens : Markup → List PageToken
  | text content => (escapeChars content.toList).map .character
  | void tag attributes => [.opens tag.name.toList (attributes.map Attribute.read)]
  | element tag attributes content =>
    .opens tag.name.toList (attributes.map Attribute.read) ::
      tokensAll content ++ [.closes tag.name.toList]

/-- The tokens of pieces side by side. -/
def tokensAll : List Markup → List PageToken
  | [] => []
  | piece :: rest => tokens piece ++ tokensAll rest

end

mutual

/-- A piece is read as its tokens. -/
theorem scan_chars : ∀ {m : Markup}, m.HasNames →
    PageScan.between.scan m.chars = some (m.tokens, .between)
  | text content, _ =>
    PageScan.scan_between fun mem => mem_escapeChars mem (by decide)
  | void tag attributes, areNamed => PageScan.scan_openChars (isName_voidTag tag) areNamed
  | element tag attributes content, ⟨areNamed, below⟩ => by
    have opened := PageScan.scan_openChars (isName_tag tag) areNamed
    have closed := PageScan.scan_closeChars (isName_tag tag)
    simpa [chars, tokens] using
      PageScan.scan_append opened (PageScan.scan_append (scan_charsAll below) closed)

theorem scan_charsAll : ∀ {pieces : List Markup}, HaveNames pieces →
    PageScan.between.scan (charsAll pieces) = some (tokensAll pieces, .between)
  | [], _ => rfl
  | _ :: _, ⟨here, others⟩ => PageScan.scan_append (scan_chars here) (scan_charsAll others)

end

/-- What was written of a tree is read as its tokens. -/
theorem readPage?_chars {m : Markup} (hasNames : m.HasNames) :
    readPage? m.chars = some m.tokens := by
  rw [readPage?, scan_chars hasNames]

/-! ## What was read -/

theorem nested_characters (opened : List (List Char)) (cs : List Char) (rest : List PageToken) :
    PageToken.nested opened (cs.map .character ++ rest) = PageToken.nested opened rest := by
  induction cs with
  | nil => rfl
  | cons c cs ih => exact ih

theorem name_not_mem_voidNames (tag : Tag) : tag.name.toList ∉ PageToken.voidNames := by
  cases tag <;> decide

theorem name_mem_voidNames (tag : VoidTag) : tag.name.toList ∈ PageToken.voidNames := by
  cases tag <;> decide

mutual

/-- A piece closes what it opens, and nothing else. -/
theorem nested_tokens (opened : List (List Char)) (rest : List PageToken) : ∀ m : Markup,
    PageToken.nested opened (m.tokens ++ rest) = PageToken.nested opened rest
  | text content => nested_characters opened _ rest
  | void tag attributes => by
    rw [tokens, List.singleton_append, PageToken.nested, if_pos (name_mem_voidNames tag)]
  | element tag attributes content => by
    rw [tokens, List.append_assoc, List.cons_append, PageToken.nested,
      if_neg (name_not_mem_voidNames tag), nested_tokensAll _ _ content]
    simp [PageToken.nested]

theorem nested_tokensAll (opened : List (List Char)) (rest : List PageToken) :
    ∀ pieces : List Markup,
      PageToken.nested opened (tokensAll pieces ++ rest) = PageToken.nested opened rest
  | [] => rfl
  | piece :: others => by
    rw [tokensAll, List.append_assoc, nested_tokens opened _ piece,
      nested_tokensAll opened rest others]

end

theorem plain_opens {name : List Char} {attributes : List Attribute} {c : Char}
    (mem : c ∈ (PageToken.opens name (attributes.map Attribute.read)).content) :
    c ∉ PageToken.marks := by
  obtain ⟨_, isRead, inside⟩ := List.mem_flatMap.1 mem
  obtain ⟨⟨name, _ | value⟩, -, rfl⟩ := List.mem_map.1 isRead
  · nomatch inside
  · exact mem_escapeChars inside

mutual

/-- No character that a piece has between its tags or in a value ends a text or a value. -/
theorem plain_tokens : ∀ {m : Markup} {token : PageToken}, token ∈ m.tokens →
    ∀ c ∈ token.content, c ∉ PageToken.marks
  | text content, token, mem, c, inside => by
    obtain ⟨d, escaped, rfl⟩ := List.mem_map.1 mem
    obtain rfl := List.mem_singleton.1 inside
    exact mem_escapeChars escaped
  | void tag attributes, token, mem, c, inside => by
    obtain rfl := List.mem_singleton.1 mem
    exact plain_opens inside
  | element tag attributes content, token, mem, c, inside => by
    rw [tokens, List.mem_append, List.mem_cons, List.mem_singleton] at mem
    obtain (rfl | below) | rfl := mem
    · exact plain_opens inside
    · exact plain_tokensAll below c inside
    · nomatch inside

theorem plain_tokensAll : ∀ {pieces : List Markup} {token : PageToken},
    token ∈ tokensAll pieces → ∀ c ∈ token.content, c ∉ PageToken.marks
  | piece :: rest, token, mem, c, inside => by
    rw [tokensAll, List.mem_append] at mem
    obtain here | others := mem
    · exact plain_tokens here c inside
    · exact plain_tokensAll others c inside

end

end Markup

end Wireframe
