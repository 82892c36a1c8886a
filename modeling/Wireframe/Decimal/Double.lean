import Wireframe.Decimal.Power

/-!
# Finite binary doubles

Sizes and numbers of a document are kept to binary64 precision. A `Double` is a finite
value `± mantissa · 2 ^ exponent` in its one canonical form, so that equal doubles are equal
as data, apart from the two zeros, which are told apart. All arithmetic here is exact integer
arithmetic on mantissa and exponent.

* `Double.ofRatio?` rounds a ratio of naturals to the nearest double, a tie to the even mantissa.
* `Double.toUInt64` rounds half up to a 64-bit word, stopping at both ends of the range.
-/

namespace Wireframe

/-- The one form that a finite value has: full mantissa, or the lowest exponent. -/
def Double.Canonical (mantissa : Nat) (exponent : Int) : Prop :=
  mantissa < pow2 53 ∧ -1074 ≤ exponent ∧ exponent ≤ 971 ∧ (pow2 52 ≤ mantissa ∨ exponent = -1074)

instance (mantissa : Nat) (exponent : Int) : Decidable (Double.Canonical mantissa exponent) := by
  unfold Double.Canonical
  infer_instance

/-- A finite value of binary64. -/
structure Double where
  negative : Bool
  mantissa : Nat
  exponent : Int
  canonical : Double.Canonical mantissa exponent
deriving DecidableEq

namespace Double

/-- Zero with the given sign. -/
def zero (negative : Bool) : Double :=
  ⟨negative, 0, -1074, by decide⟩

/-- The largest finite value. -/
def largest : Double :=
  ⟨false, pow2 53 - 1, 971, by decide⟩

instance : Inhabited Double := ⟨zero false⟩

/-- The value if mantissa and exponent are canonical. -/
def ofParts? (negative : Bool) (mantissa : Nat) (exponent : Int) : Option Double :=
  if h : Canonical mantissa exponent then some ⟨negative, mantissa, exponent, h⟩ else none

/-- A quotient rounded to the nearest natural, a tie to the even one. -/
def roundDiv (num den : Nat) : Nat :=
  let quotient := num / den
  let rest := num % den
  if den < 2 * rest ∨ (2 * rest = den ∧ quotient % 2 = 1) then quotient + 1 else quotient

/-- Numerator and denominator of `num / den` divided by `2 ^ exponent`. -/
def rescale (num den : Nat) (exponent : Int) : Nat × Nat :=
  (num * pow2 (-exponent).toNat, den * pow2 exponent.toNat)

/-- The exponent at which the ratio has a mantissa of 53 bits, or the lowest exponent. -/
def exponentOf (num den : Nat) : Int :=
  let guess : Int := (num.log2 : Int) - (den.log2 : Int) - 52
  let scaled := rescale num den guess
  max (-1074) (if scaled.1 / scaled.2 < pow2 52 then guess - 1 else guess)

/-- The double nearest to `± num / den`, none if it lies beyond the finite range. -/
def ofRatio? (negative : Bool) (num den : Nat) : Option Double :=
  if num = 0 then some (zero negative) else
    let exponent := exponentOf num den
    let scaled := rescale num den exponent
    let mantissa := roundDiv scaled.1 scaled.2
    if mantissa = pow2 53 then ofParts? negative (pow2 52) (exponent + 1)
    else ofParts? negative mantissa exponent

/-- The double nearest to `± digits · 10 ^ power`, none beyond the finite range. Powers past
every double are decided without being computed.

A numeral is read exactly, with one rounding at the end. A reader that rounds the digits first and
their product with the power of ten again comes out at a neighbour of this double for some numerals
with many digits, as for `9.015454778351085`. Such readers are left out. -/
def ofDecimal? (negative : Bool) (digits : Nat) (power : Int) : Option Double :=
  let magnitude : Int := (Nat.toDigits 10 digits).length + power
  if digits = 0 ∨ magnitude < -330 then some (zero negative)
  else if 330 < magnitude then none
  else ofRatio? negative (digits * pow10 power.toNat) (pow10 (-power).toNat)

/-- The double nearest to an integer; the largest one beyond the finite range. -/
def ofInt (z : Int) : Double :=
  (ofRatio? (decide (z < 0)) z.natAbs 1).getD largest

instance (n : Nat) : OfNat Double n := ⟨ofInt n⟩

/-- The nearest word, a half going up; negative values give zero and large ones the last word. -/
def toUInt64 (x : Double) : UInt64 :=
  if x.negative then 0 else
    let nearest := match x.exponent with
      | .ofNat up => x.mantissa * pow2 up
      | .negSucc down => (2 * x.mantissa + pow2 (down + 1)) / pow2 (down + 2)
    UInt64.ofNat (min nearest (pow2 64 - 1))

/-- The value with the given bits, none for infinities and NaN. -/
def ofBits? (bits : UInt64) : Option Double :=
  let negative := decide (bits.toNat ≥ pow2 63)
  let field : Nat := (bits.toNat / pow2 52) % pow2 11
  let fraction : Nat := bits.toNat % pow2 52
  if field = 0 then ofParts? negative fraction (-1074)
  else ofParts? negative (pow2 52 + fraction) ((field : Int) - 1075)

/-- The bits of a value. -/
def toBits (x : Double) : UInt64 :=
  let sign := if x.negative then pow2 63 else 0
  if x.mantissa < pow2 52 then UInt64.ofNat (sign + x.mantissa)
  else UInt64.ofNat (sign + (x.exponent + 1075).toNat * pow2 52 + (x.mantissa - pow2 52))

end Double

end Wireframe
