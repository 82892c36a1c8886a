import Wireframe.Decimal.Double

/-!
# The shortest decimal of a double

Every double is nearest to a whole interval of reals. `Double.shortest` gives the decimal with
the fewest digits in that interval, and the one closest to the double among those; where two
are equally close the caller says which one is taken. It tries grids of one digit, two digits
and so on; on each it looks at the two neighbours of the value, since any point of the grid
inside the interval implies that a neighbour is inside. Seventeen digits always suffice.
-/

namespace Wireframe

/-- Which of two decimals is taken for a value halfway between them. -/
inductive Tie where
  /-- The one with the even last digit. -/
  | toEven
  /-- The greater one. -/
  | up
deriving DecidableEq

/-- Whether the lesser neighbour is taken on a tie. -/
def Tie.takesBelow (tie : Tie) (below : Nat) : Bool :=
  match tie with
  | .toEven => below % 2 = 0
  | .up => false

/-- The value `digits · 10 ^ power`. -/
structure Decimal where
  digits : Nat
  power : Int
deriving DecidableEq

namespace Decimal

/-- Number of decimal digits, one for zero. -/
def width (n : Nat) : Nat :=
  (Nat.toDigits 10 n).length

/-- Trailing zeros of the digits moved into the power; at most `bound` of them. -/
def trim : Nat → Decimal → Decimal
  | 0, d => d
  | bound + 1, d =>
    if d.digits % 10 = 0 ∧ d.digits ≠ 0 then trim bound ⟨d.digits / 10, d.power + 1⟩ else d

end Decimal

namespace Double

/-- The interval of reals nearest to a positive double, in quarters of its last binary place:
the value itself, both ends, and whether the ends belong to it. -/
structure Interval where
  value : Nat
  low : Nat
  high : Nat
  closed : Bool

/-- The gap below is half as wide when the mantissa is the least one of its exponent. -/
def interval (x : Double) : Interval :=
  let narrow := x.mantissa = pow2 52 ∧ x.exponent ≠ -1074
  { value := 4 * x.mantissa
    low := if narrow then 4 * x.mantissa - 1 else 4 * x.mantissa - 2
    high := 4 * x.mantissa + 2
    closed := decide (x.mantissa % 2 = 0) }

/-- `a · unit` against an end of the interval, `end · place`, all in naturals. -/
def Interval.contains (i : Interval) (a unit place : Nat) : Bool :=
  if i.closed then i.low * place ≤ a * unit ∧ a * unit ≤ i.high * place
  else i.low * place < a * unit ∧ a * unit < i.high * place

/-- The power of ten of the leading digit of `num / den`. -/
def leadingPower (num den : Nat) : Int :=
  let guess : Int := (Decimal.width num : Int) - (Decimal.width den : Int)
  if num * pow10 (-guess).toNat < den * pow10 guess.toNat then guess - 1 else guess

/-- The point of the grid of multiples of `10 ^ power` that reads back as the double: the
nearer neighbour if both do. -/
def onGrid? (tie : Tie) (i : Interval) (binary : Int) (power : Int) : Option Nat :=
  let unit := pow10 power.toNat * pow2 (-binary).toNat
  let place := pow2 binary.toNat * pow10 (-power).toNat
  let below := i.value * place / unit
  let twice := 2 * (i.value * place)
  match i.contains below unit place, i.contains (below + 1) unit place with
  | true, true =>
    let middle := (2 * below + 1) * unit
    some (if twice < middle ∨ (twice = middle ∧ tie.takesBelow below) then below
      else below + 1)
  | true, false => some below
  | false, true => some (below + 1)
  | false, false => none

/-- The fewest digits that read back as this double. The sign is left aside. -/
def shortest (tie : Tie) (x : Double) : Decimal :=
  if x.mantissa = 0 then ⟨0, 0⟩ else
    let i := x.interval
    let binary := x.exponent - 2
    let lead := leadingPower (i.value * pow2 binary.toNat) (pow2 (-binary).toNat)
    let grids := (List.range 17).map fun n => lead - Int.ofNat n
    let found := grids.findSome? fun power =>
      (onGrid? tie i binary power).map fun digits => (⟨digits, power⟩ : Decimal)
    match found with
    | some d => d.trim 18
    | none => ⟨x.mantissa * pow2 x.exponent.toNat * Nat.pow 5 (-x.exponent).toNat, min x.exponent 0⟩

end Double

end Wireframe
