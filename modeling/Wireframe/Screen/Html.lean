import Wireframe.Screen.Element
import Wireframe.Screen.Markup

/-!
# Screens as HTML

Every element has a fixed form in markup: groups are blocks with their layout in a style, an
input comes with its label and reveal control in a block of its own, a busy button is disabled
and shows that it is working. There is no script. Lengths are written positionally, without
power and without a needless point.
-/

namespace Wireframe

/-- Lengths in styles and sizes; of two decimals that are equally close the greater is written. -/
def lengthLayout : Layout where
  tie := .up
  positional _ := true
  keepsPoint := false

/-- A length without its unit. -/
def lengthText (x : Double) : String :=
  lengthLayout.write x

/-- What a busy button shows. -/
def busyLabel : String := "Aguarde…"

/-- The style of a button apart from its shape. -/
def ButtonVariant.style : ButtonVariant → String
  | primary => "background:#0ea5e9;color:white;border:1px solid #0284c7;"
  | secondary => "background:#111827;color:#e5e7eb;border:1px solid #334155;"
  | link => "background:transparent;color:#0ea5e9;border:none;"

/-- The tag of a text. -/
def TextVariant.tag : TextVariant → Tag
  | h1 => .h1
  | h2 => .h2
  | h3 => .h3
  | p => .p
  | label => .label

/-- How the browser may fill in an input. -/
def InputKind.autocomplete : InputKind → String
  | password => "current-password"
  | email => "email"
  | text => "off"

/-- The axis in a style. -/
def Direction.style : Direction → String
  | vertical => "column"
  | horizontal => "row"

namespace Element

/-- The id, unless it is empty, and the key. -/
def identity (id : String) (key : Key) : List Attribute :=
  (if id = "" then [] else [.of "id" id]) ++ [.of "data-key" key.text]

/-- The control that reveals or masks a password. -/
def revealControl (state : Reveal) : Markup :=
  let (label, content) := match state with
    | .masked => ("Mostrar senha", "Mostrar")
    | .revealed => ("Ocultar senha", "Ocultar")
  .element .button
    [.of "type" "button", .of "class" "uf-reveal", .of "aria-label" label] [.text content]

/-- The type of an input: a revealed password is drawn as text. -/
def inputType (i : DrawnInput) : String :=
  if i.mode = .password ∧ i.reveal = some .revealed then "text" else Choices.word i.mode

/-- An input with its label and control. -/
def inputMarkup (key : Key) (i : DrawnInput) : Markup :=
  .element .div [.of "class" "uf-field"] <|
    (i.label.map fun l => .element .label [.of "for" i.id] [.text l]).toList ++
    [.void .input <|
      identity i.id key ++
      [.of "type" (inputType i), .of "name" i.name, .of "value" i.value,
        .of "autocomplete" i.mode.autocomplete] ++
      (i.placeholder.map fun p => Attribute.of "placeholder" p).toList] ++
    (i.reveal.map revealControl).toList

/-- A button. -/
def buttonMarkup (key : Key) (b : DrawnButton) : Markup :=
  let busy := b.state = .busy
  .element .button
    (identity b.id key ++
      [.of "type" "button",
        .of "style" (b.variant.style ++ "border-radius:8px;padding:8px 12px;")] ++
      if busy then [⟨"disabled", none⟩] else [])
    [.text (if busy then busyLabel else b.text)]

/-- An image. -/
def imageMarkup (key : Key) (i : Image) : Markup :=
  .void .img <|
    identity i.id key ++
    [.of "src" i.src, .of "alt" i.alt] ++
    (i.width.map fun w => Attribute.of "width" (lengthText w)).toList ++
    (i.height.map fun h => Attribute.of "height" (lengthText h)).toList ++
    [.of "style" ("border-radius:" ++ lengthText i.radius ++ "px;")]

/-- A drawn leaf. -/
def faceMarkup (key : Key) : Face → Markup
  | .text t => .element t.variant.tag (identity t.id key) [.text t.content]
  | .input i => inputMarkup key i
  | .button b => buttonMarkup key b
  | .image i => imageMarkup key i

/-- A group around its drawn children. -/
def groupMarkup (key : Key) (content : List Markup) : Group → Markup
  | .container c =>
    .element .div
      (identity c.id key ++
        [.of "style" ("display:flex;flex-direction:" ++ c.direction.style ++ ";gap:" ++
          lengthText c.gap ++ "px;padding:" ++ lengthText c.padding ++ "px;")])
      content
  | .card c =>
    .element .div
      (identity c.id key ++
        [.of "style" ("border:1px solid #e5e7eb;border-radius:12px;padding:" ++
          lengthText c.padding ++ "px;display:flex;flex-direction:column;")])
      content
  | .form f =>
    .element .form (identity f.id key ++ [⟨"novalidate", none⟩])
      [.element .div [.of "style" "display:grid;gap:10px;"] content]

/-- The text of a placeholder. -/
def placeholderText : Placeholder → String
  | .unsupported typeName => "unsupported: " ++ typeName
  | .invalid typeName message => "invalid " ++ typeName ++ ": " ++ message

mutual

/-- An element and all below it. -/
def markup : Element → Markup
  | leaf key face => faceMarkup key face
  | group key g children => groupMarkup key (markupAll children) g
  | placeholder key p =>
    .element .div [.of "class" "uf-placeholder", .of "data-key" key.text]
      [.text (placeholderText p)]

/-- Elements side by side. -/
def markupAll : List Element → List Markup
  | [] => []
  | element :: rest => markup element :: markupAll rest

end

/-- The body of a page that shows the element. -/
def html (e : Element) : String :=
  String.ofList e.markup.chars

/-- Styles that every page has. -/
def baseStyles : String :=
  "body\x7bmargin:0;font-family:system-ui,sans-serif;\x7d" ++
  "input\x7bpadding:10px 12px;border:1px solid #cbd5e1;border-radius:8px;\x7d" ++
  ".uf-field\x7bdisplay:grid;gap:6px;\x7d" ++
  ".uf-reveal\x7bbackground:transparent;border:none;color:#94a3b8;cursor:pointer;" ++
  "font-size:12px;\x7d" ++
  ".uf-placeholder\x7bpadding:8px;border:1px dashed #f59e0b;color:#b45309;font-size:12px;\x7d"

/-- A whole page with a title. -/
def page (e : Element) (title : String) : String :=
  "<!DOCTYPE html>\n<html lang=\"en\">\n<head>\n<meta charset=\"UTF-8\">\n" ++
  "<meta name=\"viewport\" content=\"width=device-width, initial-scale=1\">\n<title>" ++
  String.ofList (escapeChars title.toList) ++ "</title>\n<style>" ++ baseStyles ++
  "</style>\n</head>\n<body>\n" ++ e.html ++ "\n</body>\n</html>\n"

end Element

end Wireframe
