import Wireframe.Chars.Blank
import Wireframe.Chars.Hexadecimal
import Wireframe.Decimal.Layout

/-!
# Palettes and contrast

A palette names up to four colours, any text being allowed. Colours written as six hexadecimal
digits can be measured: relative luminance weighs the three linearised channels, and the
contrast of two colours is the ratio of their luminances, each raised by 0.05, the lighter one
on top. It runs from 1 to 21. Colours that cannot be measured have contrast 1.
-/

namespace Wireframe

/-- The colours of a document. -/
structure Palette where
  primary : Option String
  secondary : Option String
  background : Option String
  foreground : Option String
deriving DecidableEq

/-- A colour by its three channels. -/
structure Rgb where
  red : UInt8
  green : UInt8
  blue : UInt8
deriving DecidableEq

/-- How well one colour reads on another. -/
structure Contrast where
  foreground : String
  background : String
  ratio : Float

namespace Rgb

/-- A channel from its two digits. -/
def channel? (high low : Char) : Option UInt8 := do
  let h ← Chars.hexValue? high
  let l ← Chars.hexValue? low
  some (UInt8.ofNat (h * 16 + l))

/-- A colour written as six digits, a hash before them or not, blanks around them or not. -/
def ofText? (color : String) : Option Rgb :=
  let digits := match Chars.trimChars color.toList with
    | '#' :: rest => rest
    | other => other
  match digits with
  | [r1, r2, g1, g2, b1, b2] => do
    let red ← channel? r1 r2
    let green ← channel? g1 g2
    let blue ← channel? b1 b2
    some ⟨red, green, blue⟩
  | _ => none

/-- A channel in linear light. -/
def linear (channel : UInt8) : Float :=
  let c := channel.toFloat / 255.0
  if c ≤ 0.03928 then c / 12.92 else ((c + 0.055) / 1.055).pow 2.4

/-- Relative luminance, from 0 for black to 1 for white. -/
def luminance (color : Rgb) : Float :=
  0.2126 * linear color.red + 0.7152 * linear color.green + 0.0722 * linear color.blue

/-- The contrast ratio of two colours. -/
def ratio (a b : Rgb) : Float :=
  let la := a.luminance
  let lb := b.luminance
  if la ≥ lb then (la + 0.05) / (lb + 0.05) else (lb + 0.05) / (la + 0.05)

end Rgb

namespace Contrast

/-- Contrast that normal text needs on the middle level. -/
def levelAA : Float := 4.5

/-- Contrast that normal text needs on the top level. -/
def levelAAA : Float := 7.0

/-- Whether a ratio reaches the middle level. -/
def ratioPassesAA (ratio : Float) : Bool :=
  ratio ≥ levelAA

/-- Whether a ratio reaches the top level. -/
def ratioPassesAAA (ratio : Float) : Bool :=
  ratio ≥ levelAAA

/-- The contrast of two colours as they are written. -/
def ratioOf (a b : String) : Float :=
  match Rgb.ofText? a, Rgb.ofText? b with
  | some ca, some cb => ca.ratio cb
  | _, _ => 1.0

/-- Whether the pair reaches the middle level. -/
def passesAA (c : Contrast) : Bool :=
  ratioPassesAA c.ratio

/-- Whether the pair reaches the top level. -/
def passesAAA (c : Contrast) : Bool :=
  ratioPassesAAA c.ratio

end Contrast

namespace Palette

/-- No colour set. -/
def empty : Palette :=
  ⟨none, none, none, none⟩

/-- Whether no colour is set. -/
def isEmpty (p : Palette) : Bool :=
  p.primary.isNone && p.secondary.isNone && p.background.isNone && p.foreground.isNone

/-- Text on background, once both are set. -/
def textContrast (p : Palette) : Option Contrast := do
  let foreground ← p.foreground
  let background ← p.background
  some ⟨foreground, background, Contrast.ratioOf foreground background⟩

end Palette

/-- A computed float with a set number of places. -/
def fixedFloat (places : Nat) (x : Float) : String :=
  ((Double.ofBits? x.toBits).getD (.zero false)).fixed places

end Wireframe
