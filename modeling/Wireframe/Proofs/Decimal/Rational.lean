import Mathlib.Algebra.Order.Floor.Semifield
import Mathlib.Data.Rat.Floor
import Mathlib.Tactic
import Wireframe.Decimal.Double

/-!
# Doubles as rationals

A double stands for a rational number. `Double.milliseconds` is what a delay written as a number
means : no delay below zero, the nearest whole number with a half going up, and no more than the
last 64-bit word. The arithmetic on mantissa and exponent gives just that
(`Double.toNat_toUInt64`).
-/

namespace Wireframe

namespace Double

/-- The value of a double. -/
def toRat (x : Double) : ℚ :=
  (if x.negative then -1 else 1) * x.mantissa * 2 ^ x.exponent

/-- The whole milliseconds of a delay. -/
def milliseconds (x : Double) : Nat :=
  min ⌊max x.toRat 0 + 1 / 2⌋₊ (2 ^ 64 - 1)

/-- The value without sign, rounded to a whole number with a half going up. -/
def nearest (x : Double) : Nat :=
  match x.exponent with
  | .ofNat up => x.mantissa * pow2 up
  | .negSucc down => (2 * x.mantissa + pow2 (down + 1)) / pow2 (down + 2)

theorem toRat_of_negative {x : Double} (h : x.negative = true) : x.toRat ≤ 0 := by
  have : (0 : ℚ) ≤ x.mantissa * 2 ^ x.exponent := by positivity
  simp only [toRat, h, if_true]
  linarith

theorem toRat_of_not_negative {x : Double} (h : x.negative = false) :
    x.toRat = x.mantissa * 2 ^ x.exponent := by
  simp [toRat, h]

theorem nearest_eq_floor (x : Double) :
    x.nearest = ⌊(x.mantissa : ℚ) * 2 ^ x.exponent + 1 / 2⌋₊ := by
  unfold nearest
  cases x.exponent with
  | ofNat up =>
    have half : ⌊(1 / 2 : ℚ)⌋₊ = 0 := by norm_num
    have whole : (x.mantissa : ℚ) * 2 ^ (Int.ofNat up) = ((x.mantissa * 2 ^ up : Nat) : ℚ) := by
      simp
    rw [whole, add_comm, Nat.floor_add_natCast (by norm_num), half, zero_add]
    rfl
  | negSucc down =>
    have sum : (x.mantissa : ℚ) * 2 ^ (Int.negSucc down) + 1 / 2 =
        ((2 * x.mantissa + 2 ^ (down + 1) : Nat) : ℚ) / ((2 ^ (down + 2) : Nat) : ℚ) := by
      rw [zpow_negSucc]
      push_cast
      field_simp
      ring
    rw [sum, Nat.floor_div_eq_div]
    rfl

/-- No delay is below zero. -/
theorem milliseconds_of_negative {x : Double} (h : x.negative = true) : x.milliseconds = 0 := by
  have half : ⌊(0 + 1 / 2 : ℚ)⌋₊ = 0 := by norm_num
  rw [milliseconds, max_eq_right (toRat_of_negative h), half]
  rfl

/-- Other delays are rounded. -/
theorem milliseconds_of_not_negative {x : Double} (h : x.negative = false) :
    x.milliseconds = min x.nearest (2 ^ 64 - 1) := by
  have nonneg : (0 : ℚ) ≤ x.mantissa * 2 ^ x.exponent := by positivity
  rw [milliseconds, toRat_of_not_negative h, max_eq_left nonneg, ← nearest_eq_floor]

/-- The arithmetic on mantissa and exponent rounds as a delay is meant to. -/
theorem toNat_toUInt64 (x : Double) : x.toUInt64.toNat = x.milliseconds := by
  cases h : x.negative with
  | true =>
    rw [milliseconds_of_negative h]
    simp [toUInt64, h]
  | false =>
    have word : min x.nearest (2 ^ 64 - 1) < 2 ^ 64 := by omega
    have unfolded : x.toUInt64 = UInt64.ofNat (min x.nearest (2 ^ 64 - 1)) := by
      simp only [toUInt64, h, nearest]
      rfl
    rw [milliseconds_of_not_negative h, unfolded, UInt64.toNat_ofNat_of_lt' word]

end Double

end Wireframe
