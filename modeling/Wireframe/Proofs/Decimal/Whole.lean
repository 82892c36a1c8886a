import Wireframe.Proofs.Decimal.Rational

/-!
# Whole numbers as doubles

A whole number whose binary digits fit a mantissa is itself as a double. A delay that was read
from a double is of this kind, or it is the last 64-bit word, which comes back because reading
stops there. So delays do not change any more once they were read
(`Double.milliseconds_ofInt_milliseconds`).
-/

namespace Wireframe

namespace Double

/-- Whether all binary digits of a number but the last zeros fit a mantissa. -/
def Fits (n : Nat) : Prop :=
  2 ^ (n.log2 - 52) ∣ n

theorem fits_mul {mantissa : Nat} (small : mantissa < 2 ^ 53) (shift : Nat) :
    Fits (mantissa * 2 ^ shift) := by
  unfold Fits
  by_cases zero : mantissa = 0
  · simp [zero]
  have below : mantissa * 2 ^ shift < 2 ^ (53 + shift) := by
    rw [pow_add]
    exact Nat.mul_lt_mul_of_pos_right small (by positivity)
  have digits : (mantissa * 2 ^ shift).log2 < 53 + shift :=
    (Nat.log2_lt (by positivity)).2 below
  exact (Nat.pow_dvd_pow 2 (by omega)).trans (Nat.dvd_mul_left _ _)

theorem fits_of_lt {n : Nat} (small : n < 2 ^ 53) : Fits n := by
  simpa using fits_mul small 0

/-- A number that fits is a full mantissa at the exponent of its first binary digit. -/
theorem Fits.exists_mantissa {n : Nat} (fits : Fits n) (pos : n ≠ 0) :
    ∃ mantissa unit : Nat, 2 ^ 52 ≤ mantissa ∧ mantissa < 2 ^ 53 ∧ 0 < unit ∧
      rescale n 1 (n.log2 - 52) = (mantissa * unit, unit) ∧
      (n : ℚ) = mantissa * 2 ^ ((n.log2 : ℤ) - 52) := by
  have low := Nat.log2_self_le pos
  have high := Nat.lt_log2_self (n := n)
  rcases Nat.le_total n.log2 52 with small | large
  · obtain ⟨up, whole⟩ : ∃ up, 52 = n.log2 + up := ⟨52 - n.log2, by omega⟩
    have exponent : (n.log2 : ℤ) - 52 = -(up : ℤ) := by omega
    refine ⟨n * 2 ^ up, 1, ?_, ?_, one_pos, ?_, ?_⟩
    · calc 2 ^ 52 = 2 ^ n.log2 * 2 ^ up := by rw [← pow_add, ← whole]
        _ ≤ n * 2 ^ up := Nat.mul_le_mul_right _ low
    · calc n * 2 ^ up < 2 ^ (n.log2 + 1) * 2 ^ up :=
            Nat.mul_lt_mul_of_pos_right high (by positivity)
        _ = 2 ^ 53 := by rw [← pow_add]; congr 1; omega
    · simp [rescale, exponent]
    · rw [exponent]
      push_cast
      rw [zpow_neg, zpow_natCast]
      field_simp
  · obtain ⟨down, whole⟩ : ∃ down, n.log2 = 52 + down := ⟨n.log2 - 52, by omega⟩
    have exponent : (n.log2 : ℤ) - 52 = (down : ℤ) := by omega
    obtain ⟨mantissa, n_eq⟩ := fits
    have place : n.log2 - 52 = down := by omega
    rw [place, mul_comm] at n_eq
    refine ⟨mantissa, 2 ^ down, ?_, ?_, by positivity, ?_, ?_⟩
    · have scaled : 2 ^ 52 * 2 ^ down ≤ mantissa * 2 ^ down := by
        rw [← pow_add, ← whole, ← n_eq]
        exact low
      exact Nat.le_of_mul_le_mul_right scaled (by positivity)
    · have scaled : mantissa * 2 ^ down < 2 ^ 53 * 2 ^ down := by
        rw [← n_eq, ← pow_add, show 53 + down = n.log2 + 1 by omega]
        exact high
      exact Nat.lt_of_mul_lt_mul_right scaled
    · rw [exponent]
      simpa [rescale] using n_eq
    · rw [exponent, zpow_natCast]
      exact_mod_cast n_eq

/-- A quotient without rest is not rounded. -/
theorem roundDiv_mul (n : Nat) {den : Nat} (pos : 0 < den) : roundDiv (n * den) den = n := by
  have quotient : n * den / den = n := Nat.mul_div_cancel n pos
  have rest : n * den % den = 0 := Nat.mul_mod_left n den
  simp only [roundDiv, quotient, rest]
  rw [if_neg]
  omega

/-- A number that fits is itself as a double. -/
theorem Fits.toRat_ofInt {n : Nat} (fits : Fits n) (small : n.log2 ≤ 1023) :
    (ofInt n).toRat = n := by
  by_cases zero : n = 0
  · subst zero
    simp [ofInt, ofRatio?, toRat, Double.zero]
  obtain ⟨mantissa, unit, low, high, pos, scaled, n_eq⟩ := fits.exists_mantissa zero
  have guess : (n.log2 : ℤ) - (Nat.log2 1 : ℤ) - 52 = (n.log2 : ℤ) - 52 := by
    have one : Nat.log2 1 = 0 := by decide
    rw [one]
    simp
  have exponent : exponentOf n 1 = (n.log2 : ℤ) - 52 := by
    simp only [exponentOf, guess, scaled, Nat.mul_div_cancel mantissa pos, pow2, Nat.pow_eq]
    rw [if_neg (Nat.not_lt.2 low)]
    omega
  have canonical : Canonical mantissa ((n.log2 : ℤ) - 52) := by
    refine ⟨high, ?_, ?_, .inl low⟩ <;> omega
  have double : ofInt n = ⟨false, mantissa, (n.log2 : ℤ) - 52, canonical⟩ := by
    have positive : ¬ (n : ℤ) < 0 := by omega
    simp only [ofInt, ofRatio?, Int.natAbs_natCast, zero, if_false, exponent, scaled,
      roundDiv_mul mantissa pos, positive, decide_false, pow2, Nat.pow_eq, high.ne]
    simp [ofParts?, canonical]
  rw [double, n_eq]
  simp [toRat]

/-- A number that fits is the delay that it is written as. -/
theorem Fits.milliseconds_ofInt {n : Nat} (fits : Fits n) (word : n < 2 ^ 64) :
    (ofInt n).milliseconds = n := by
  have small : n.log2 ≤ 1023 := by
    by_cases zero : n = 0
    · simp [zero]
    have := (Nat.log2_lt zero).2 word
    omega
  have rounded : ⌊(n : ℚ) + 1 / 2⌋₊ = n := by
    have half : ⌊(1 / 2 : ℚ)⌋₊ = 0 := by norm_num
    rw [add_comm, Nat.floor_add_natCast (by norm_num), half, zero_add]
  rw [milliseconds, fits.toRat_ofInt small, max_eq_left (by positivity), rounded]
  omega

/-- The last word is beyond what it is as a double, and comes back. -/
theorem milliseconds_ofInt_last : (ofInt ((2 ^ 64 - 1 : Nat) : ℤ)).milliseconds = 2 ^ 64 - 1 := by
  rw [← toNat_toUInt64]
  decide +kernel

/-- What a double rounds to fits. -/
theorem fits_nearest (x : Double) : Fits x.nearest := by
  have small : x.mantissa < 2 ^ 53 := x.canonical.1
  unfold nearest
  cases x.exponent with
  | ofNat up => exact fits_mul small up
  | negSucc down =>
    have quotient : (2 * x.mantissa + 2 ^ (down + 1)) / 2 ^ (down + 2) < 2 ^ 53 := by
      have unit : 0 < 2 ^ down := by positivity
      have half : 2 ^ (down + 1) = 2 ^ down * 2 := pow_succ 2 down
      have quarter : 2 ^ (down + 2) = 2 ^ down * 4 := pow_add 2 down 2
      rw [Nat.div_lt_iff_lt_mul (by positivity)]
      omega
    exact fits_of_lt quotient

/-- Delays do not change any more once they were read. -/
theorem milliseconds_ofInt_milliseconds (x : Double) :
    (ofInt x.milliseconds).milliseconds = x.milliseconds := by
  cases h : x.negative with
  | true =>
    rw [milliseconds_of_negative h]
    exact (fits_of_lt (by positivity)).milliseconds_ofInt (by positivity)
  | false =>
    rw [milliseconds_of_not_negative h]
    rcases Nat.lt_or_ge x.nearest (2 ^ 64) with word | beyond
    · rw [Nat.min_eq_left (Nat.le_sub_one_of_lt word)]
      exact (fits_nearest x).milliseconds_ofInt word
    · rw [Nat.min_eq_right (Nat.le_trans (Nat.sub_le _ _) beyond)]
      exact milliseconds_ofInt_last

end Double

end Wireframe
