import Wireframe.Proofs.Decimal.Nearest

/-!
# Shortest decimals

The decimal that a double is written as is near it (`Double.near_shortest`), so it reads as the
double again. The search only gives points of a grid inside the interval, and if it gave none the
exact value would stand.
-/

namespace Wireframe

namespace Decimal

/-- The value of a decimal. -/
def toRat (d : Decimal) : ℚ :=
  d.digits * 10 ^ d.power

/-- Zeros moved into the power do not change the value. -/
theorem toRat_trim : ∀ (bound : Nat) (d : Decimal), (trim bound d).toRat = d.toRat
  | 0, d => rfl
  | bound + 1, d => by
    rw [trim]
    split_ifs with zero
    · rw [toRat_trim bound]
      have whole : ((d.digits / 10 : Nat) : ℚ) * 10 = d.digits := by
        have : d.digits / 10 * 10 = d.digits := by omega
        exact_mod_cast this
      have next : (10 : ℚ) ^ (d.power + 1) = 10 * 10 ^ d.power := by
        rw [zpow_add₀ (by norm_num), zpow_one, mul_comm]
      simp only [toRat, next]
      rw [← mul_assoc, whole]
    · rfl

end Decimal

namespace Double

/-- What both sides of a comparison with a decimal are multiplied by. -/
def scale (power binary : Int) : ℚ :=
  2 ^ (-binary).toNat * 10 ^ (-power).toNat

theorem scale_pos (power binary : Int) : 0 < scale power binary := by
  unfold scale
  positivity

theorem binary_mul_scale (n : Nat) (power binary : Int) :
    n * 2 ^ binary * scale power binary =
      ((n * (pow2 binary.toNat * pow10 (-power).toNat) : Nat) : ℚ) := by
  rw [zpow_eq_div, scale]
  simp only [pow2, pow10, Nat.pow_eq]
  push_cast
  field_simp

theorem decimal_mul_scale (n : Nat) (power binary : Int) :
    n * 10 ^ power * scale power binary =
      ((n * (pow10 power.toNat * pow2 (-binary).toNat) : Nat) : ℚ) := by
  rw [zpow_eq_div, scale]
  simp only [pow2, pow10, Nat.pow_eq]
  push_cast
  field_simp

/-- A point of a grid inside the interval is near. -/
theorem near_of_contains {x : Double} {a : Nat} {power : Int}
    (h : x.interval.contains a (pow10 power.toNat * pow2 (-(x.exponent - 2)).toNat)
      (pow2 (x.exponent - 2).toNat * pow10 (-power).toNat) = true) :
    x.Near (a * 10 ^ power) := by
  have pos := scale_pos power (x.exponent - 2)
  unfold Interval.contains at h
  split at h
  · next closed =>
    obtain ⟨low, high⟩ := of_decide_eq_true h
    refine ⟨?_, ?_, fun isOpen => ?_⟩
    · refine le_of_mul_le_mul_right ?_ pos
      rw [binary_mul_scale, decimal_mul_scale]
      exact_mod_cast low
    · refine le_of_mul_le_mul_right ?_ pos
      rw [binary_mul_scale, decimal_mul_scale]
      exact_mod_cast high
    · rw [closed] at isOpen
      cases isOpen
  · obtain ⟨low, high⟩ := of_decide_eq_true h
    have above : x.interval.low * (2 : ℚ) ^ (x.exponent - 2) < a * 10 ^ power := by
      refine lt_of_mul_lt_mul_right ?_ pos.le
      rw [binary_mul_scale, decimal_mul_scale]
      exact_mod_cast low
    have below : (a : ℚ) * 10 ^ power < x.interval.high * 2 ^ (x.exponent - 2) := by
      refine lt_of_mul_lt_mul_right ?_ pos.le
      rw [binary_mul_scale, decimal_mul_scale]
      exact_mod_cast high
    exact ⟨above.le, below.le, fun _ => ⟨above, below⟩⟩

/-- What is found on a grid is near. -/
theorem near_of_onGrid? {x : Double} {tie : Tie} {power : Int} {digits : Nat}
    (h : onGrid? tie x.interval (x.exponent - 2) power = some digits) :
    x.Near (digits * 10 ^ power) := by
  unfold onGrid? at h
  dsimp only at h
  split at h
  · next below above =>
    obtain rfl := Option.some.inj h
    split_ifs
    · exact near_of_contains below
    · exact near_of_contains above
  · next below _ =>
    obtain rfl := Option.some.inj h
    exact near_of_contains below
  · next _ above =>
    obtain rfl := Option.some.inj h
    exact near_of_contains above
  · cases h

/-- A double is near itself. -/
theorem near_self {x : Double} (some_digit : x.mantissa ≠ 0) :
    x.Near (x.mantissa * 2 ^ x.exponent) := by
  have unit : (0 : ℚ) < 2 ^ x.exponent := by positivity
  have above : (x.interval.low : ℚ) * 2 ^ (x.exponent - 2) < x.mantissa * 2 ^ x.exponent := by
    have low_lt : x.interval.low < 4 * x.mantissa := by
      simp only [interval]
      split_ifs <;> omega
    have : (x.interval.low : ℚ) < ((4 * x.mantissa : Nat) : ℚ) := by exact_mod_cast low_lt
    rw [zpow_sub_two]
    push_cast at this
    nlinarith
  have below : (x.mantissa : ℚ) * 2 ^ x.exponent < x.interval.high * 2 ^ (x.exponent - 2) := by
    simp only [interval, zpow_sub_two]
    push_cast
    linarith
  exact ⟨above.le, below.le, fun _ => ⟨above, below⟩⟩

/-- Every double is a decimal. -/
theorem toRat_exact (mantissa : Nat) (exponent : Int) :
    Decimal.toRat ⟨mantissa * pow2 exponent.toNat * Nat.pow 5 (-exponent).toNat, min exponent 0⟩ =
      mantissa * 2 ^ exponent := by
  have up : (min exponent 0).toNat = 0 := by omega
  have down : (-min exponent 0).toNat = (-exponent).toNat := by omega
  have ten : (10 : ℚ) ^ (-exponent).toNat = 2 ^ (-exponent).toNat * 5 ^ (-exponent).toNat := by
    rw [← mul_pow]
    norm_num
  rw [Decimal.toRat, zpow_eq_div 10, zpow_eq_div 2, up, down, ten]
  simp only [pow2, Nat.pow_eq]
  push_cast
  field_simp

/-- The decimal that a double is written as is near it. -/
theorem near_shortest {x : Double} (some_digit : x.mantissa ≠ 0) (tie : Tie) :
    x.Near (x.shortest tie).toRat := by
  rw [shortest, if_neg some_digit]
  dsimp only
  split
  · next d found =>
    rw [Decimal.toRat_trim]
    obtain ⟨power, -, onGrid⟩ := List.exists_of_findSome?_eq_some found
    obtain ⟨digits, digits_eq, rfl⟩ := Option.map_eq_some_iff.1 onGrid
    exact near_of_onGrid? digits_eq
  · rw [toRat_exact]
    exact near_self some_digit

end Double

end Wireframe
