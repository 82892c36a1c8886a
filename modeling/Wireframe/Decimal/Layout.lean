import Wireframe.Decimal.Shortest

/-!
# Laying out decimals

A `Layout` holds the decisions that a format makes about writing the shortest digits of a
double: which of two equally close decimals it takes, between which powers of ten it writes
positionally, and whether an integral value keeps a `.0`. `Double.fixed` writes a set number of
places instead, exact and with a half going to the even neighbour.
-/

namespace Wireframe

/-- How a format writes doubles. -/
structure Layout where
  /-- Which of two decimals is written for a value halfway between them. -/
  tie : Tie
  /-- Powers of the leading digit that are written positionally. -/
  positional : Int → Bool
  /-- Whether an integral value written positionally ends in `.0`. -/
  keepsPoint : Bool

namespace Layout

/-- Decimal digits of a natural. -/
def digitChars (n : Nat) : List Char :=
  Nat.toDigits 10 n

/-- Positional digits with the point where the power puts it. -/
def positionalChars (layout : Layout) (d : Decimal) : List Char :=
  let digits := digitChars d.digits
  match d.power with
  | .ofNat zeros =>
    digits ++ List.replicate zeros '0' ++ if layout.keepsPoint then ['.', '0'] else []
  | .negSucc k =>
    let places := k + 1
    if places < digits.length then
      digits.take (digits.length - places) ++ '.' :: digits.drop (digits.length - places)
    else '0' :: '.' :: List.replicate (places - digits.length) '0' ++ digits

/-- One digit before the point, a signed power after the mark. -/
def scientificChars (d : Decimal) : List Char :=
  let digits := digitChars d.digits
  let power : Int := d.power + digits.length - 1
  let sign := if power < 0 then '-' else '+'
  let body := match digits with
    | [] => []
    | [lead] => [lead]
    | lead :: rest => lead :: '.' :: rest
  body ++ 'e' :: sign :: digitChars power.natAbs

/-- The text of a double. -/
def chars (layout : Layout) (x : Double) : List Char :=
  let d := x.shortest layout.tie
  let lead : Int := d.power + Decimal.width d.digits - 1
  let body := if layout.positional lead then layout.positionalChars d else scientificChars d
  if x.negative then '-' :: body else body

/-- The text of a double as a string. -/
def write (layout : Layout) (x : Double) : String :=
  String.ofList (layout.chars x)

end Layout

namespace Double

/-- The value rounded to `places` decimals, a half going to the even neighbour. -/
def fixedChars (places : Nat) (x : Double) : List Char :=
  let unit := pow2 (-x.exponent).toNat
  let scaled := roundDiv (x.mantissa * pow2 x.exponent.toNat * pow10 places) unit
  let digits := Layout.digitChars scaled
  let padded := List.replicate (places + 1 - digits.length) '0' ++ digits
  let whole := padded.take (padded.length - places)
  let fraction := padded.drop (padded.length - places)
  (if x.negative then ['-'] else []) ++ whole ++ if places = 0 then [] else '.' :: fraction

/-- The text with a set number of places as a string. -/
def fixed (places : Nat) (x : Double) : String :=
  String.ofList (x.fixedChars places)

end Double

end Wireframe
