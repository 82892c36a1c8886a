import Wireframe.Decimal.Shortest
import Wireframe.Proofs.Decimal.Rational

/-!
# The nearest double

A double is nearest to the rationals between the ends of its interval (`Double.Near`). Rounding a
ratio of naturals gives the double that is near it (`Double.ofRatio?_of_near`), and so does reading
a decimal (`Double.ofDecimal?_of_near`) : the exponent is the one at which the ratio has a full
mantissa, and only just below a power of two it is one less than that of the double.
-/

namespace Wireframe

namespace Double

/-- Rationals between the ends of the interval of a double, and not at an end that does not belong
to it. -/
structure Near (x : Double) (v : ℚ) : Prop where
  low : x.interval.low * 2 ^ (x.exponent - 2) ≤ v
  high : v ≤ x.interval.high * 2 ^ (x.exponent - 2)
  inside : x.interval.closed = false →
    x.interval.low * 2 ^ (x.exponent - 2) < v ∧ v < x.interval.high * 2 ^ (x.exponent - 2)

/-! ## Ratios of naturals -/

/-- A power with any exponent is a ratio of powers with natural exponents, one of them zero. -/
theorem zpow_eq_div (base : ℚ) (e : Int) : base ^ e = base ^ e.toNat / base ^ (-e).toNat := by
  rcases Int.le_total 0 e with up | down
  · obtain ⟨n, rfl⟩ := Int.eq_ofNat_of_zero_le up
    have none : (-(n : Int)).toNat = 0 := by omega
    rw [none, Int.toNat_natCast, pow_zero, div_one, zpow_natCast]
  · obtain ⟨n, rfl⟩ : ∃ n : Nat, e = -(n : Int) := ⟨(-e).toNat, by omega⟩
    have none : (-(n : Int)).toNat = 0 := by omega
    rw [none, neg_neg, Int.toNat_natCast, pow_zero, zpow_neg, zpow_natCast, one_div]

/-- The rescaled ratio in ℚ. -/
theorem ratio_rescale (num den : Nat) (exponent : Int) :
    ((rescale num den exponent).1 : ℚ) / (rescale num den exponent).2 =
      num / den / 2 ^ exponent := by
  rw [zpow_eq_div]
  simp only [rescale, pow2, Nat.pow_eq]
  push_cast
  field_simp

theorem rescale_pos {num den : Nat} (pos : 0 < den) (exponent : Int) :
    0 < (rescale num den exponent).2 :=
  Nat.mul_pos pos (Nat.pow_pos (by decide))

/-- A quotient rounds to the natural that is no more than a half away, where an odd one has to be
closer than that. -/
theorem roundDiv_eq {num den m : Nat} (pos : 0 < den) (low : 2 * (m * den) ≤ 2 * num + den)
    (high : 2 * num ≤ 2 * (m * den) + den)
    (odd : m % 2 = 1 → 2 * (m * den) < 2 * num + den ∧ 2 * num < 2 * (m * den) + den) :
    roundDiv num den = m := by
  have split_num : num = num / den * den + num % den := (Nat.div_add_mod' num den).symm
  have rest_lt : num % den < den := Nat.mod_lt num pos
  have rounded : m = num / den ∨ m = num / den + 1 := by
    have upper : m < num / den + 2 := by
      by_contra far
      have : (num / den + 2) * den ≤ m * den := Nat.mul_le_mul_right _ (not_lt.1 far)
      rw [Nat.add_mul] at this
      omega
    have lower : num / den < m + 1 := by
      by_contra far
      have : (m + 1) * den ≤ num / den * den := Nat.mul_le_mul_right _ (not_lt.1 far)
      rw [Nat.add_mul] at this
      omega
    omega
  unfold roundDiv
  dsimp only
  rcases rounded with same | next
  · rw [← same] at split_num ⊢
    rw [if_neg (by omega)]
  · have product : m * den = num / den * den + den := by rw [next, Nat.add_mul, Nat.one_mul]
    rw [if_pos (by omega), next]

/-- The same with the quotient in ℚ. -/
theorem roundDiv_of_ratio {num den m : Nat} (pos : 0 < den) {q : ℚ} (q_eq : (num : ℚ) / den = q)
    (low : m - 1 / 2 ≤ q) (high : q ≤ m + 1 / 2)
    (odd : m % 2 = 1 → m - 1 / 2 < q ∧ q < m + 1 / 2) : roundDiv num den = m := by
  have den_pos : (0 : ℚ) < den := by exact_mod_cast pos
  have num_eq : q * den = num := by
    rw [← q_eq]
    field_simp
  have low' : (m - 1 / 2) * (den : ℚ) ≤ q * den := mul_le_mul_of_nonneg_right low den_pos.le
  have high' : q * den ≤ (m + 1 / 2) * (den : ℚ) := mul_le_mul_of_nonneg_right high den_pos.le
  rw [num_eq] at low' high'
  refine roundDiv_eq pos ?_ ?_ fun isOdd => ?_
  · have : (2 * (m * den) : ℚ) ≤ 2 * num + den := by linarith
    exact_mod_cast this
  · have : (2 * num : ℚ) ≤ 2 * (m * den) + den := by linarith
    exact_mod_cast this
  · obtain ⟨above, below⟩ := odd isOdd
    have above' : (m - 1 / 2) * (den : ℚ) < q * den := mul_lt_mul_of_pos_right above den_pos
    have below' : q * den < (m + 1 / 2) * (den : ℚ) := mul_lt_mul_of_pos_right below den_pos
    rw [num_eq] at above' below'
    constructor
    · have : (2 * (m * den) : ℚ) < 2 * num + den := by linarith
      exact_mod_cast this
    · have : (2 * num : ℚ) < 2 * (m * den) + den := by linarith
      exact_mod_cast this

/-! ## Exponents -/

theorem two_pow_mul_zpow (k : Nat) (e : Int) : (2 : ℚ) ^ k * 2 ^ e = 2 ^ ((k : Int) + e) := by
  rw [zpow_add₀ two_ne_zero, zpow_natCast]

/-- The binary digits of two naturals tell their ratio up to a factor of four. -/
theorem ratio_bounds {num den : Nat} (num_pos : 0 < num) (den_pos : 0 < den) :
    (2 : ℚ) ^ ((num.log2 : Int) - den.log2 - 1) < num / den ∧
      (num : ℚ) / den < 2 ^ ((num.log2 : Int) - den.log2 + 1) := by
  have den_pos' : (0 : ℚ) < den := by exact_mod_cast den_pos
  have num_low : (2 : ℚ) ^ (num.log2 : Int) ≤ num := by
    rw [zpow_natCast]
    exact_mod_cast Nat.log2_self_le num_pos.ne'
  have num_high : (num : ℚ) < 2 ^ ((num.log2 : Int) + 1) := by
    have := Nat.lt_log2_self (n := num)
    rw [← Int.natCast_succ, zpow_natCast]
    exact_mod_cast this
  have den_low : (2 : ℚ) ^ (den.log2 : Int) ≤ den := by
    rw [zpow_natCast]
    exact_mod_cast Nat.log2_self_le den_pos.ne'
  have den_high : (den : ℚ) < 2 ^ ((den.log2 : Int) + 1) := by
    have := Nat.lt_log2_self (n := den)
    rw [← Int.natCast_succ, zpow_natCast]
    exact_mod_cast this
  constructor
  · rw [lt_div_iff₀ den_pos']
    calc (2 : ℚ) ^ ((num.log2 : Int) - den.log2 - 1) * den
        < 2 ^ ((num.log2 : Int) - den.log2 - 1) * 2 ^ ((den.log2 : Int) + 1) := by gcongr
      _ = 2 ^ (num.log2 : Int) := by
          rw [← zpow_add₀ two_ne_zero]
          congr 1
          omega
      _ ≤ num := num_low
  · rw [div_lt_iff₀ den_pos']
    calc (num : ℚ) < 2 ^ ((num.log2 : Int) + 1) := num_high
      _ = 2 ^ ((num.log2 : Int) - den.log2 + 1) * 2 ^ (den.log2 : Int) := by
          rw [← zpow_add₀ two_ne_zero]
          congr 1
          omega
      _ ≤ 2 ^ ((num.log2 : Int) - den.log2 + 1) * den := by gcongr

/-- The exponent of a ratio gives it a full mantissa, or is the lowest one. -/
theorem exponentOf_spec {num den : Nat} (num_pos : 0 < num) (den_pos : 0 < den) :
    -1074 ≤ exponentOf num den ∧ (num : ℚ) / den < 2 ^ 53 * 2 ^ exponentOf num den ∧
      (2 ^ 52 * 2 ^ exponentOf num den ≤ (num : ℚ) / den ∨ exponentOf num den = -1074) := by
  obtain ⟨above, below⟩ := ratio_bounds num_pos den_pos
  obtain ⟨guess, guess_eq⟩ : ∃ guess : Int, guess = (num.log2 : Int) - den.log2 - 52 := ⟨_, rfl⟩
  -- the guess is the exponent, or one more than it
  obtain ⟨exact, choice, below_exact, above_exact⟩ : ∃ exact : Int,
      (if (rescale num den guess).1 / (rescale num den guess).2 < 2 ^ 52 then guess - 1
        else guess) = exact ∧
      (num : ℚ) / den < 2 ^ 53 * 2 ^ exact ∧ 2 ^ 52 * 2 ^ exact ≤ (num : ℚ) / den := by
    have unit : (0 : ℚ) < 2 ^ guess := by positivity
    have small : (rescale num den guess).1 / (rescale num den guess).2 < 2 ^ 52 ↔
        (num : ℚ) / den < 2 ^ 52 * 2 ^ guess := by
      have scaled_pos : (0 : ℚ) < (rescale num den guess).2 := by
        exact_mod_cast rescale_pos den_pos guess
      rw [Nat.div_lt_iff_lt_mul (rescale_pos den_pos guess), ← div_lt_iff₀ unit, ← ratio_rescale,
        div_lt_iff₀ scaled_pos]
      norm_cast
    refine ⟨_, rfl, ?_⟩
    split_ifs with case
    · have bound := small.1 case
      constructor
      · have same : ((53 : Nat) : Int) + (guess - 1) = ((52 : Nat) : Int) + guess := by omega
        rwa [two_pow_mul_zpow, same, ← two_pow_mul_zpow]
      · have same : ((52 : Nat) : Int) + (guess - 1) = (num.log2 : Int) - den.log2 - 1 := by omega
        rw [two_pow_mul_zpow, same]
        exact above.le
    · constructor
      · have same : ((53 : Nat) : Int) + guess = (num.log2 : Int) - den.log2 + 1 := by omega
        rw [two_pow_mul_zpow, same]
        exact below
      · exact not_lt.1 fun bound => case (small.2 bound)
  have exponent_eq : exponentOf num den = max (-1074) exact := by
    rw [← choice, guess_eq]
    rfl
  rw [exponent_eq]
  rcases Int.le_total exact (-1074) with low | high
  · rw [max_eq_left low]
    refine ⟨le_refl _, below_exact.trans_le ?_, .inr rfl⟩
    have : (2 : ℚ) ^ exact ≤ 2 ^ (-1074 : Int) := zpow_le_zpow_right₀ (by norm_num) low
    gcongr
  · rw [max_eq_right high]
    exact ⟨high, below_exact, .inl above_exact⟩

/-- A ratio with a full mantissa at one exponent has none at a greater one. -/
theorem le_of_full {v : ℚ} {e e' : Int} (full : 2 ^ 52 * 2 ^ e ≤ v) (below : v < 2 ^ 53 * 2 ^ e') :
    e ≤ e' := by
  by_contra greater
  have : (2 : ℚ) ^ 53 * 2 ^ e' ≤ 2 ^ 52 * 2 ^ e := by
    rw [two_pow_mul_zpow, two_pow_mul_zpow]
    exact zpow_le_zpow_right₀ (by norm_num) (by omega)
  linarith

/-- No other exponent does. -/
theorem exponentOf_eq {num den : Nat} (num_pos : 0 < num) (den_pos : 0 < den) {e : Int}
    (least : -1074 ≤ e) (below : (num : ℚ) / den < 2 ^ 53 * 2 ^ e)
    (full : 2 ^ 52 * 2 ^ e ≤ (num : ℚ) / den ∨ e = -1074) : exponentOf num den = e := by
  obtain ⟨least', below', full'⟩ := exponentOf_spec num_pos den_pos
  refine le_antisymm ?_ ?_
  · rcases full' with full' | lowest
    · exact le_of_full full' below
    · rw [lowest]
      exact least
  · rcases full with full | lowest
    · exact le_of_full full below'
    · rw [lowest]
      exact least'

/-! ## Rounding a near ratio -/

/-- A quarter of a binary place. -/
theorem zpow_sub_two (e : Int) : (2 : ℚ) ^ (e - 2) = 2 ^ e / 4 := by
  rw [zpow_sub₀ two_ne_zero]
  norm_num

namespace Near

variable {x : Double} {v : ℚ} (near : x.Near v)
include near

/-- A near rational is at most a half of the last place above. -/
theorem le_high : v ≤ (x.mantissa + 1 / 2) * 2 ^ x.exponent := by
  have high := near.high
  simp only [interval, zpow_sub_two] at high
  push_cast at high
  linarith

/-- It is at most a half of the last place below. -/
theorem low_le (some : x.mantissa ≠ 0) : (x.mantissa - 1 / 2) * 2 ^ x.exponent ≤ v := by
  have unit : (0 : ℚ) < 2 ^ x.exponent := by positivity
  have low := near.low
  simp only [interval, zpow_sub_two] at low
  split_ifs at low
  · rw [Nat.cast_sub (by omega)] at low
    push_cast at low
    linarith
  · rw [Nat.cast_sub (by omega)] at low
    push_cast at low
    linarith

/-- It is closer than that to an odd mantissa. -/
theorem strict_of_odd (odd : x.mantissa % 2 = 1) :
    (x.mantissa - 1 / 2) * 2 ^ x.exponent < v ∧ v < (x.mantissa + 1 / 2) * 2 ^ x.exponent := by
  have wide : ¬ (x.mantissa = pow2 52 ∧ x.exponent ≠ -1074) := by
    rintro ⟨even, -⟩
    rw [even] at odd
    cases odd
  obtain ⟨above, below⟩ := near.inside (by simp [interval, odd])
  simp only [interval, wide, if_false, zpow_sub_two] at above below
  rw [Nat.cast_sub (by omega)] at above
  push_cast at above below
  constructor <;> linarith

/-- Below a power of two it is at most a quarter of the last place below. -/
theorem low_le_of_narrow (narrow : x.mantissa = 2 ^ 52 ∧ x.exponent ≠ -1074) :
    (x.mantissa - 1 / 4) * 2 ^ x.exponent ≤ v := by
  have low := near.low
  have narrow' : x.mantissa = pow2 52 ∧ x.exponent ≠ -1074 := narrow
  simp only [interval, if_pos narrow', zpow_sub_two] at low
  rw [Nat.cast_sub (by omega)] at low
  push_cast at low
  linarith

theorem pos (some : x.mantissa ≠ 0) : 0 < v := by
  have unit : (0 : ℚ) < 2 ^ x.exponent := by positivity
  have one_le : (1 : ℚ) ≤ x.mantissa := by exact_mod_cast Nat.one_le_iff_ne_zero.2 some
  have low := near.low_le some
  have : 0 < ((x.mantissa : ℚ) - 1 / 2) * 2 ^ x.exponent := mul_pos (by linarith) unit
  linarith

end Near

theorem ofParts?_eq {x : Double} {mantissa : Nat} {exponent : Int} (mantissa_eq : x.mantissa = mantissa)
    (exponent_eq : x.exponent = exponent) : ofParts? x.negative mantissa exponent = some x := by
  subst mantissa_eq exponent_eq
  exact dif_pos x.canonical

/-- A near rational is below the next power of two. -/
theorem Near.lt_full {x : Double} {v : ℚ} (near : x.Near v) : v < 2 ^ 53 * 2 ^ x.exponent := by
  have unit : (0 : ℚ) < 2 ^ x.exponent := by positivity
  have mantissa_le : (x.mantissa : ℚ) ≤ 2 ^ 53 - 1 := by
    have : x.mantissa + 1 ≤ 2 ^ 53 := x.canonical.1
    have : ((x.mantissa + 1 : Nat) : ℚ) ≤ ((2 ^ 53 : Nat) : ℚ) := by exact_mod_cast this
    push_cast at this
    linarith
  have high := near.le_high
  nlinarith

/-- Only the least full mantissa has near rationals for which it is too large. -/
theorem Near.mantissa_eq_of_less {x : Double} {v : ℚ} (near : x.Near v)
    (some_digit : x.mantissa ≠ 0) (notLeast : x.exponent ≠ -1074)
    (less : v < 2 ^ 52 * 2 ^ x.exponent) : x.mantissa = 2 ^ 52 := by
  have unit : (0 : ℚ) < 2 ^ x.exponent := by positivity
  have full : 2 ^ 52 ≤ x.mantissa := x.canonical.2.2.2.resolve_right notLeast
  have bound : (x.mantissa - 1 / 2 : ℚ) < 2 ^ 52 :=
    lt_of_mul_lt_mul_right ((near.low_le some_digit).trans_lt less) unit.le
  have : (x.mantissa : ℚ) < ((2 ^ 52 + 1 : Nat) : ℚ) := by
    push_cast
    linarith
  have : x.mantissa < 2 ^ 52 + 1 := by exact_mod_cast this
  omega

section

variable {x : Double} {num den : Nat} (some_digit : x.mantissa ≠ 0) (num_pos : 0 < num)
  (den_pos : 0 < den) (near : x.Near (num / den))
include some_digit num_pos den_pos near

/-- A near ratio with a full mantissa rounds to the mantissa of the double. -/
theorem ofRatio?_of_full (full : 2 ^ 52 * 2 ^ x.exponent ≤ (num : ℚ) / den ∨ x.exponent = -1074) :
    ofRatio? x.negative num den = some x := by
  obtain ⟨small, least, -, -⟩ := x.canonical
  have unit : (0 : ℚ) < 2 ^ x.exponent := by positivity
  have exponent_eq := exponentOf_eq num_pos den_pos least near.lt_full full
  have rounded : roundDiv (rescale num den x.exponent).1 (rescale num den x.exponent).2 =
      x.mantissa := by
    refine roundDiv_of_ratio (rescale_pos den_pos _) (ratio_rescale ..) ?_ ?_ fun odd => ?_
    · rw [le_div_iff₀ unit]
      exact near.low_le some_digit
    · rw [div_le_iff₀ unit]
      exact near.le_high
    · rw [lt_div_iff₀ unit, div_lt_iff₀ unit]
      exact near.strict_of_odd odd
  simp only [ofRatio?, num_pos.ne', if_false, exponent_eq, rounded, small.ne]
  exact ofParts?_eq rfl rfl

/-- A near ratio just below a power of two has the exponent below, at which it rounds up to that
power. -/
theorem ofRatio?_of_less (notLeast : x.exponent ≠ -1074)
    (less : (num : ℚ) / den < 2 ^ 52 * 2 ^ x.exponent) : ofRatio? x.negative num den = some x := by
  obtain ⟨-, least, -, -⟩ := x.canonical
  have mantissa_eq := near.mantissa_eq_of_less some_digit notLeast less
  have narrow := near.low_le_of_narrow ⟨mantissa_eq, notLeast⟩
  obtain ⟨e, e_eq⟩ : ∃ e, x.exponent = e + 1 := ⟨x.exponent - 1, by omega⟩
  have double_unit : (2 : ℚ) ^ x.exponent = 2 * 2 ^ e := by
    rw [e_eq, zpow_add₀ two_ne_zero]
    ring
  have half_unit : (0 : ℚ) < 2 ^ e := by positivity
  rw [mantissa_eq, double_unit] at narrow
  rw [double_unit] at less
  push_cast at narrow
  have exponent_eq : exponentOf num den = e := by
    refine exponentOf_eq num_pos den_pos (by omega) (by linarith) (.inl ?_)
    nlinarith
  have rounded : roundDiv (rescale num den e).1 (rescale num den e).2 = 2 ^ 53 := by
    refine roundDiv_of_ratio (rescale_pos den_pos _) (ratio_rescale ..) ?_ ?_ fun odd => ?_
    · rw [le_div_iff₀ half_unit]
      push_cast
      linarith
    · rw [div_le_iff₀ half_unit]
      push_cast
      nlinarith
    · cases odd
  simp only [ofRatio?, num_pos.ne', if_false, exponent_eq, rounded]
  exact ofParts?_eq mantissa_eq e_eq

end

/-- A ratio rounds to the double that it is near. -/
theorem ofRatio?_of_near {x : Double} {num den : Nat} (some_digit : x.mantissa ≠ 0)
    (den_pos : 0 < den) (near : x.Near (num / den)) : ofRatio? x.negative num den = some x := by
  have num_pos : 0 < num := by
    rcases Nat.eq_zero_or_pos num with rfl | pos
    · simpa using near.pos some_digit
    · exact pos
  by_cases full : 2 ^ 52 * 2 ^ x.exponent ≤ (num : ℚ) / den ∨ x.exponent = -1074
  · exact ofRatio?_of_full some_digit num_pos den_pos near full
  · obtain ⟨less, notLeast⟩ := not_or.1 full
    exact ofRatio?_of_less some_digit num_pos den_pos near notLeast (not_le.1 less)

/-! ## Reading a near decimal -/

theorem two_pow_lt_ten_pow : 2 ^ 1075 < 10 ^ 330 := by
  decide +kernel

/-- A rational near a double is between the powers of ten at which reading a decimal stops. -/
theorem Near.between {x : Double} {v : ℚ} (near : x.Near v) (some_digit : x.mantissa ≠ 0) :
    (10 : ℚ) ^ (-330 : Int) < v ∧ v < 10 ^ (330 : Int) := by
  obtain ⟨small, least, most, -⟩ := x.canonical
  have one_le : (1 : ℚ) ≤ x.mantissa := by exact_mod_cast Nat.one_le_iff_ne_zero.2 some_digit
  have mantissa_lt : (x.mantissa : ℚ) < 2 ^ 53 := by exact_mod_cast small
  have apart : (2 : ℚ) ^ (1075 : Int) < 10 ^ (330 : Int) := by
    exact_mod_cast two_pow_lt_ten_pow
  constructor
  · calc (10 : ℚ) ^ (-330 : Int) < 2 ^ (-1075 : Int) := by
          rw [zpow_neg, zpow_neg]
          exact inv_strictAnti₀ (by positivity) apart
      _ ≤ 2 ^ (x.exponent - 1) := zpow_le_zpow_right₀ (by norm_num) (by omega)
      _ = 1 / 2 * 2 ^ x.exponent := by
          rw [zpow_sub₀ two_ne_zero]
          ring
      _ ≤ (x.mantissa - 1 / 2) * 2 ^ x.exponent := by
          have : (1 / 2 : ℚ) ≤ x.mantissa - 1 / 2 := by linarith
          gcongr
      _ ≤ v := near.low_le some_digit
  · calc v ≤ (x.mantissa + 1 / 2) * 2 ^ x.exponent := near.le_high
      _ ≤ 2 ^ 54 * 2 ^ x.exponent := by
          have : (x.mantissa + 1 / 2 : ℚ) ≤ 2 ^ 54 := by linarith
          gcongr
      _ = 2 ^ (((54 : Nat) : Int) + x.exponent) := two_pow_mul_zpow 54 _
      _ ≤ 2 ^ (1075 : Int) := zpow_le_zpow_right₀ (by norm_num) (by omega)
      _ < 10 ^ (330 : Int) := apart

/-- The width of a natural tells its size up to a factor of ten. -/
theorem width_bounds {n : Nat} (pos : n ≠ 0) :
    (10 : ℚ) ^ ((Nat.toDigits 10 n).length - 1 : Int) ≤ n ∧
      (n : ℚ) < 10 ^ ((Nat.toDigits 10 n).length : Int) := by
  obtain ⟨k, k_eq⟩ : ∃ k, (Nat.toDigits 10 n).length = k + 1 :=
    ⟨_, (Nat.sub_add_cancel Nat.length_toDigits_pos).symm⟩
  have high : n < 10 ^ (k + 1) := (Nat.length_toDigits_le_iff (by decide) (by omega)).1 k_eq.le
  have low : 10 ^ k ≤ n := by
    rcases Nat.eq_zero_or_pos k with rfl | k_pos
    · simpa using Nat.one_le_iff_ne_zero.2 pos
    · by_contra less
      have := (Nat.length_toDigits_le_iff (b := 10) (by decide) k_pos).2 (not_le.1 less)
      omega
  rw [k_eq]
  constructor
  · rw [Int.natCast_succ, add_sub_cancel_right, zpow_natCast]
    exact_mod_cast low
  · rw [zpow_natCast]
    exact_mod_cast high

/-- A decimal reads as the double that it is near. -/
theorem ofDecimal?_of_near {x : Double} {digits : Nat} {power : Int} (some_digit : x.mantissa ≠ 0)
    (near : x.Near (digits * 10 ^ power)) : ofDecimal? x.negative digits power = some x := by
  have unit : (0 : ℚ) < 10 ^ power := by positivity
  have digits_ne : digits ≠ 0 := by
    rintro rfl
    simpa using near.pos some_digit
  obtain ⟨above, below⟩ := near.between some_digit
  obtain ⟨width_low, width_high⟩ := width_bounds digits_ne
  obtain ⟨width, width_eq⟩ : ∃ width : Int, width = (Nat.toDigits 10 digits).length := ⟨_, rfl⟩
  rw [← width_eq] at width_low width_high
  have notSmall : ¬ width + power < -330 := by
    intro small
    have : (digits * 10 ^ power : ℚ) < 10 ^ (-330 : Int) := calc
      (digits * 10 ^ power : ℚ) < 10 ^ width * 10 ^ power := by gcongr
      _ = 10 ^ (width + power) := (zpow_add₀ (by norm_num) _ _).symm
      _ ≤ 10 ^ (-330 : Int) := zpow_le_zpow_right₀ (by norm_num) (by omega)
    linarith
  have notLarge : ¬ 330 < width + power := by
    intro large
    have : (10 : ℚ) ^ (330 : Int) ≤ digits * 10 ^ power := calc
      (10 : ℚ) ^ (330 : Int) ≤ 10 ^ (width - 1 + power) :=
        zpow_le_zpow_right₀ (by norm_num) (by omega)
      _ = 10 ^ (width - 1) * 10 ^ power := zpow_add₀ (by norm_num) _ _
      _ ≤ digits * 10 ^ power := by gcongr
    linarith
  have ratio : (((digits * pow10 power.toNat : Nat) : ℚ) / (pow10 (-power).toNat : Nat)) =
      digits * 10 ^ power := by
    rw [zpow_eq_div]
    simp only [pow10, Nat.pow_eq]
    push_cast
    ring
  simp only [ofDecimal?, ← width_eq, digits_ne, notSmall, notLarge, or_self, if_false]
  refine ofRatio?_of_near some_digit (Nat.pow_pos (by decide)) ?_
  rwa [ratio]

end Double

end Wireframe
