import Wireframe.Proofs.Chars.Digits
import Wireframe.Proofs.Screen.Reading
import Wireframe.Screen.Html

/-!
# Texts of a screen in its page

Ids, names, labels and all other texts of a screen stand in its page as text, whatever they are. A
screen has the same tags as its `Element.outline`, in which nothing is left of the texts but
whether an id is empty and whether there is a label or a placeholder
(`Element.tags_outline`, `Element.texts_bring_no_markup`).

Lengths are written with characters that need no entities (`escapeChars_lengthText`).
-/

namespace Wireframe

/-! ## Outlines -/

/-- Of an id only whether it is empty. -/
def outlineId (id : String) : String :=
  if id = "" then "" else "id"

/-- Of an optional text only whether there is one. -/
def outlineText? (text : Option String) : Option String :=
  text.map fun _ => ""

/-- A leaf without its texts. -/
def Face.outline : Face → Face
  | text t => text { t with id := outlineId t.id, content := "" }
  | input i =>
    input { i with
      id := outlineId i.id
      name := ""
      label := outlineText? i.label
      placeholder := outlineText? i.placeholder
      value := "" }
  | button b => button { b with id := outlineId b.id, text := "" }
  | image i => image { i with id := outlineId i.id, src := "", alt := "" }

/-- A group without its texts. -/
def Group.outline : Group → Group
  | container c => container { c with id := outlineId c.id }
  | card c => card { c with id := outlineId c.id }
  | form f => form { f with id := outlineId f.id }

/-- A placeholder without its texts. -/
def Placeholder.outline : Placeholder → Placeholder
  | unsupported _ => unsupported ""
  | invalid _ _ => invalid "" ""

namespace Element

mutual

/-- An element without its texts. -/
def outline : Element → Element
  | leaf _ face => leaf ⟨""⟩ face.outline
  | group _ g children => group ⟨""⟩ g.outline (outlines children)
  | placeholder _ p => placeholder ⟨""⟩ p.outline

/-- Elements without their texts. -/
def outlines : List Element → List Element
  | [] => []
  | element :: rest => outline element :: outlines rest

end

end Element

/-! ## Tags of a tree -/

namespace Markup

/-- An attribute as it is read, apart from what its value is. -/
def bare (a : Attribute) : PageAttribute :=
  ⟨a.name.toList, a.value.map fun _ => []⟩

theorem bare_read (a : Attribute) : a.read.bare = bare a := by
  simp [Attribute.read, PageAttribute.bare, bare, Function.comp_def]

/-- The tags of a piece. -/
def tags (m : Markup) : List PageToken :=
  PageToken.tags m.tokens

/-- The tags of pieces side by side. -/
def tagsAll (pieces : List Markup) : List PageToken :=
  PageToken.tags (tokensAll pieces)

@[simp] theorem tags_text (content : String) : (text content).tags = [] := by
  simp [tags, tokens, PageToken.tags, PageToken.bare?, List.filterMap_map]

@[simp] theorem tags_void (tag : VoidTag) (attributes : List Attribute) :
    (void tag attributes).tags = [.opens tag.name.toList (attributes.map bare)] := by
  simp [tags, tokens, PageToken.tags, PageToken.bare?, bare_read]

@[simp] theorem tags_element (tag : Tag) (attributes : List Attribute) (content : List Markup) :
    (element tag attributes content).tags =
      .opens tag.name.toList (attributes.map bare) ::
        (tagsAll content ++ [.closes tag.name.toList]) := by
  simp [tags, tagsAll, tokens, PageToken.tags, PageToken.bare?, bare_read]

@[simp] theorem tagsAll_nil : tagsAll [] = [] :=
  rfl

@[simp] theorem tagsAll_cons (piece : Markup) (rest : List Markup) :
    tagsAll (piece :: rest) = piece.tags ++ tagsAll rest := by
  simp [tagsAll, tags, tokensAll, PageToken.tags]

end Markup

namespace Element

/-- Of the id and the key nothing is seen in the tags but whether the id is empty. -/
theorem bare_identity (id : String) (key : Key) :
    (identity id key).map Markup.bare = (identity (outlineId id) ⟨""⟩).map Markup.bare := by
  by_cases empty : id = "" <;> simp [identity, outlineId, empty, Attribute.of, Markup.bare]

theorem tags_inputMarkup (key : Key) (i : DrawnInput) :
    (inputMarkup key i).tags = (inputMarkup ⟨""⟩
      ⟨outlineId i.id, "", outlineText? i.label, outlineText? i.placeholder, i.mode, "",
        i.reveal⟩).tags := by
  obtain ⟨id, name, label, placeholder, mode, value, reveal⟩ := i
  cases label <;> cases placeholder <;> cases reveal <;>
    simp [inputMarkup, revealControl, outlineText?, Attribute.of, Markup.bare, bare_identity id key]

theorem tags_buttonMarkup (key : Key) (b : DrawnButton) :
    (buttonMarkup key b).tags =
      (buttonMarkup ⟨""⟩ ⟨outlineId b.id, "", b.variant, b.state⟩).tags := by
  simp [buttonMarkup, Attribute.of, Markup.bare, bare_identity b.id key]

theorem tags_imageMarkup (key : Key) (i : Image) :
    (imageMarkup key i).tags =
      (imageMarkup ⟨""⟩ ⟨outlineId i.id, "", "", i.width, i.height, i.radius⟩).tags := by
  simp [imageMarkup, Attribute.of, Markup.bare, bare_identity i.id key]

theorem tags_faceMarkup (key : Key) (face : Face) :
    (faceMarkup key face).tags = (faceMarkup ⟨""⟩ face.outline).tags := by
  cases face with
  | text t => simp [faceMarkup, Face.outline, bare_identity t.id key]
  | input i => exact tags_inputMarkup key i
  | button b => exact tags_buttonMarkup key b
  | image i => exact tags_imageMarkup key i

/-- The tags around the children depend on the children through their tags. -/
theorem tags_groupMarkup (key : Key) {content content' : List Markup} (g : Group)
    (same : Markup.tagsAll content = Markup.tagsAll content') :
    (groupMarkup key content g).tags = (groupMarkup ⟨""⟩ content' g.outline).tags := by
  cases g with
  | container c =>
    simp [groupMarkup, Group.outline, Attribute.of, Markup.bare, bare_identity c.id key, same]
  | card c =>
    simp [groupMarkup, Group.outline, Attribute.of, Markup.bare, bare_identity c.id key, same]
  | form f =>
    simp [groupMarkup, Group.outline, Attribute.of, Markup.bare, bare_identity f.id key, same]

mutual

/-- An element has the tags of its outline. -/
theorem tags_outline : ∀ e : Element, e.markup.tags = e.outline.markup.tags
  | leaf key face => tags_faceMarkup key face
  | group key g children => tags_groupMarkup key g (tagsAll_outlines children)
  | placeholder key p => by
    cases p <;> simp [outline, Placeholder.outline, markup, Attribute.of, Markup.bare]

theorem tagsAll_outlines : ∀ elements : List Element,
    Markup.tagsAll (markupAll elements) = Markup.tagsAll (markupAll (outlines elements))
  | [] => rfl
  | element :: rest => by
    simp [markupAll, outlines, tags_outline element, tagsAll_outlines rest]

end

/-! ## Names of attributes -/

theorem isNamed_of (name value : String) :
    (Attribute.of name value).IsNamed ↔ IsName name.toList :=
  Iff.rfl

theorem isNamed_mk (name : String) (value : Option String) :
    (Attribute.mk name value).IsNamed ↔ IsName name.toList :=
  Iff.rfl

theorem areNamed_identity (id : String) (key : Key) : ∀ a ∈ identity id key, a.IsNamed := by
  unfold identity
  split <;> simp +decide [isNamed_of]

theorem hasNames_inputMarkup (key : Key) (i : DrawnInput) : (inputMarkup key i).HasNames := by
  obtain ⟨id, name, label, placeholder, mode, value, reveal⟩ := i
  cases label <;> cases placeholder <;> cases reveal <;>
    simpa +decide [inputMarkup, revealControl, Markup.HasNames, Markup.HaveNames, isNamed_of,
      or_imp, forall_and] using areNamed_identity id key

theorem hasNames_buttonMarkup (key : Key) (b : DrawnButton) : (buttonMarkup key b).HasNames := by
  by_cases busy : b.state = .busy <;>
    simpa +decide [buttonMarkup, busy, Markup.HasNames, Markup.HaveNames, isNamed_of, isNamed_mk,
      or_imp, forall_and] using areNamed_identity b.id key

theorem hasNames_imageMarkup (key : Key) (i : Image) : (imageMarkup key i).HasNames := by
  obtain ⟨id, src, alt, width, height, radius⟩ := i
  cases width <;> cases height <;>
    simpa +decide [imageMarkup, Markup.HasNames, isNamed_of, or_imp, forall_and] using
      areNamed_identity id key

theorem hasNames_faceMarkup (key : Key) (face : Face) : (faceMarkup key face).HasNames := by
  cases face with
  | text t => exact ⟨areNamed_identity t.id key, trivial, trivial⟩
  | input i => exact hasNames_inputMarkup key i
  | button b => exact hasNames_buttonMarkup key b
  | image i => exact hasNames_imageMarkup key i

theorem hasNames_groupMarkup (key : Key) {content : List Markup} (g : Group)
    (below : Markup.HaveNames content) : (groupMarkup key content g).HasNames := by
  cases g with
  | container c =>
    simpa +decide [groupMarkup, Markup.HasNames, isNamed_of, or_imp, forall_and, below] using
      areNamed_identity c.id key
  | card c =>
    simpa +decide [groupMarkup, Markup.HasNames, isNamed_of, or_imp, forall_and, below] using
      areNamed_identity c.id key
  | form f =>
    simpa +decide [groupMarkup, Markup.HasNames, Markup.HaveNames, isNamed_of, isNamed_mk, or_imp,
      forall_and, below] using areNamed_identity f.id key

mutual

/-- A reader takes the names of all attributes of an element. -/
theorem hasNames_markup : ∀ e : Element, e.markup.HasNames
  | leaf key face => hasNames_faceMarkup key face
  | group key g children => hasNames_groupMarkup key g (haveNames_markupAll children)
  | placeholder key p => by
    simp +decide [markup, Markup.HasNames, Markup.HaveNames, isNamed_of]

theorem haveNames_markupAll : ∀ elements : List Element, Markup.HaveNames (markupAll elements)
  | [] => trivial
  | element :: rest => ⟨hasNames_markup element, haveNames_markupAll rest⟩

end

/-! ## Lengths -/

/-- Characters of numerals. -/
def IsNumeralChar (c : Char) : Prop :=
  c.isDigit = true ∨ c ∈ ['.', '-', '+', 'e']

theorem isNumeralChar_of_mem_digitChars {n : Nat} {c : Char} (mem : c ∈ Layout.digitChars n) :
    IsNumeralChar c :=
  .inl (Chars.isDigit_of_mem_digitChars mem)

theorem isNumeralChar_zeros {n : Nat} {c : Char} (mem : c ∈ List.replicate n '0') :
    IsNumeralChar c :=
  .inl (List.eq_of_mem_replicate mem ▸ rfl)

theorem isNumeralChar_positionalChars (layout : Layout) (d : Decimal) :
    ∀ c ∈ layout.positionalChars d, IsNumeralChar c := by
  have point : IsNumeralChar '.' := .inr (by decide)
  have zero : IsNumeralChar '0' := .inl rfl
  have digit : ∀ c ∈ Layout.digitChars d.digits, IsNumeralChar c :=
    fun _ => isNumeralChar_of_mem_digitChars
  intro c mem
  unfold Layout.positionalChars at mem
  split at mem
  case h_1 zeros =>
    simp only [List.mem_append] at mem
    obtain (whole | zeros) | kept := mem
    · exact digit c whole
    · exact isNumeralChar_zeros zeros
    · split at kept
      · obtain rfl | rfl : c = '.' ∨ c = '0' := by simpa using kept
        · exact point
        · exact zero
      · nomatch kept
  case h_2 k =>
    dsimp only at mem
    split at mem
    · obtain whole | rfl | places := by simpa using mem
      · exact digit c (List.mem_of_mem_take whole)
      · exact point
      · exact digit c (List.mem_of_mem_drop places)
    · simp only [List.mem_append, List.mem_cons] at mem
      obtain (rfl | rfl | zeros) | places := mem
      · exact zero
      · exact point
      · exact isNumeralChar_zeros zeros
      · exact digit c places

theorem isNumeralChar_scientificChars (d : Decimal) :
    ∀ c ∈ Layout.scientificChars d, IsNumeralChar c := by
  have digit : ∀ c ∈ Layout.digitChars d.digits, IsNumeralChar c :=
    fun _ => isNumeralChar_of_mem_digitChars
  intro c mem
  simp only [Layout.scientificChars, List.mem_append, List.mem_cons] at mem
  obtain body | rfl | rfl | power := mem
  · split at body
    case h_1 => nomatch body
    case h_2 lead eq =>
      rw [eq] at digit
      exact digit c body
    case h_3 lead rest _ eq =>
      rw [eq] at digit
      obtain rfl | rfl | rest := by simpa using body
      · exact digit c List.mem_cons_self
      · exact .inr (by decide)
      · exact digit c (List.mem_cons_of_mem lead rest)
  · exact .inr (by decide)
  · split
    · exact .inr (by decide)
    · exact .inr (by decide)
  · exact isNumeralChar_of_mem_digitChars power

theorem isNumeralChar_chars (layout : Layout) (x : Double) :
    ∀ c ∈ layout.chars x, IsNumeralChar c := by
  have body : ∀ c ∈ if layout.positional ((x.shortest layout.tie).power +
      Decimal.width (x.shortest layout.tie).digits - 1)
      then layout.positionalChars (x.shortest layout.tie)
      else Layout.scientificChars (x.shortest layout.tie), IsNumeralChar c := by
    split
    · exact isNumeralChar_positionalChars layout _
    · exact isNumeralChar_scientificChars _
  unfold Layout.chars
  dsimp only
  split
  · exact List.forall_mem_cons.2 ⟨.inr (by decide), body⟩
  · exact body

/-- Text without characters that mean something in markup stands there as it is. -/
theorem escapeChars_eq_self {cs : List Char} (plain : ∀ c ∈ cs, escapeChar c = [c]) :
    escapeChars cs = cs := by
  induction cs with
  | nil => rfl
  | cons c cs ih =>
    rw [escapeChars_cons, plain c List.mem_cons_self]
    exact congrArg (c :: ·) (ih fun d mem => plain d (List.mem_cons_of_mem c mem))

/-- Characters of numerals need no entities. -/
theorem escapeChar_of_isNumeralChar {c : Char} (h : IsNumeralChar c) : escapeChar c = [c] := by
  obtain digit | sign := h
  · exact Chars.of_isDigit (P := fun c => escapeChar c = [c]) (by decide) digit
  · exact (List.all_iff_forall_prop (p := fun c => escapeChar c = [c])).1 (by decide) c sign

/-- A length stands in a page as it is written. -/
theorem escapeChars_lengthText (x : Double) :
    escapeChars (lengthText x).toList = (lengthText x).toList := by
  have plain : ∀ c ∈ (lengthText x).toList, escapeChar c = [c] := fun c mem =>
    escapeChar_of_isNumeralChar (isNumeralChar_chars lengthLayout x c (by
      simpa [lengthText, Layout.write] using mem))
  exact escapeChars_eq_self plain

/-! ## Pages -/

/-- The page of an element is read as the tokens of its markup. -/
theorem readPage?_html (e : Element) : readPage? e.html.toList = some e.markup.tokens := by
  rw [html, String.toList_ofList, Markup.readPage?_chars (hasNames_markup e)]

/-- How the page of an element is read : no character is lost, what is opened is closed in order,
and no character between tags or in a value could end a text or a value. -/
structure ReadsAs (e : Element) (tokens : List PageToken) : Prop where
  read : readPage? e.html.toList = some tokens
  written : tokens.flatMap PageToken.chars = e.html.toList
  nested : PageToken.nested [] tokens = true
  plain : ∀ token ∈ tokens, ∀ c ∈ token.content, c ∉ PageToken.marks

theorem readsAs_tokens (e : Element) : e.ReadsAs e.markup.tokens where
  read := readPage?_html e
  written := Wireframe.readPage?_chars (readPage?_html e)
  nested := by simpa [PageToken.nested] using Markup.nested_tokens [] [] e.markup
  plain _ mem := Markup.plain_tokens mem

/-- The texts of a screen bring no markup into its page. A screen that differs from it in texts only
has the same tags with the same attributes, and all that differs stands between tags or in values. -/
theorem texts_bring_no_markup (p : Element) :
    ∃ tokens, p.ReadsAs tokens ∧ ∀ q : Element, q.outline = p.outline →
      ∃ others, q.ReadsAs others ∧ PageToken.tags others = PageToken.tags tokens := by
  refine ⟨p.markup.tokens, readsAs_tokens p, fun q same => ⟨q.markup.tokens, readsAs_tokens q, ?_⟩⟩
  calc q.markup.tags = q.outline.markup.tags := tags_outline q
    _ = p.outline.markup.tags := by rw [same]
    _ = p.markup.tags := (tags_outline p).symm

/-- A heading that would bring a script has the tags of a harmless one. -/
theorem heading_with_script_has_its_tags :
    ∃ tokens others : List PageToken,
      (leaf .root (.text ⟨"title", "</h2><script>", .h2⟩)).ReadsAs tokens ∧
      (leaf .root (.text ⟨"\" onload=\"", "Sign in", .h2⟩)).ReadsAs others ∧
      PageToken.tags others = PageToken.tags tokens := by
  obtain ⟨tokens, read, all⟩ :=
    texts_bring_no_markup (leaf .root (.text ⟨"title", "</h2><script>", .h2⟩))
  obtain ⟨others, readOther, same⟩ :=
    all (leaf .root (.text ⟨"\" onload=\"", "Sign in", .h2⟩)) rfl
  exact ⟨tokens, others, read, readOther, same⟩

end Element

end Wireframe
