import Mathlib.Algebra.Group.Nat.Defs
import Wireframe.Chars.Blank
import Wireframe.Decimal.Layout

/-!
# Digits

Which characters are digits, and how a reader finds those that were written.
-/

namespace Wireframe

namespace Chars

theorem digitChar_eq_ofNat : ∀ d < 10, Nat.digitChar d = Char.ofNat (48 + d) := by
  decide

/-- There are ten digits. -/
theorem exists_digitChar {c : Char} (h : c.isDigit = true) : ∃ d < 10, c = Nat.digitChar d := by
  obtain ⟨low, high⟩ := Char.isDigit_iff_toNat.1 h
  have zero : '0'.toNat = 48 := by decide
  have nine : '9'.toNat = 57 := by decide
  refine ⟨c.toNat - 48, by omega, ?_⟩
  rw [digitChar_eq_ofNat _ (by omega), show 48 + (c.toNat - 48) = c.toNat by omega,
    Char.ofNat_toNat]

/-- What holds of the ten digits holds of each character that is one. -/
theorem of_isDigit {P : Char → Prop} (all : ∀ d < 10, P (Nat.digitChar d)) {c : Char}
    (h : c.isDigit = true) : P c := by
  obtain ⟨d, small, rfl⟩ := exists_digitChar h
  exact all d small

/-- Texts that do not begin with a digit. -/
def NoDigitFirst (cs : List Char) : Prop :=
  ∀ c ∈ cs.head?, c.isDigit = false

theorem takeWhile_of_noDigitFirst {cs : List Char} (h : NoDigitFirst cs) :
    cs.takeWhile Char.isDigit = [] := by
  cases cs with
  | nil => rfl
  | cons c cs => simp [h c rfl]

theorem dropWhile_of_noDigitFirst {cs : List Char} (h : NoDigitFirst cs) :
    cs.dropWhile Char.isDigit = cs := by
  cases cs with
  | nil => rfl
  | cons c cs => simp [h c rfl]

section

variable {ds rest : List Char} (digits : ∀ c ∈ ds, c.isDigit = true) (stop : NoDigitFirst rest)
include digits stop

/-- Digits are found up to where none follows. -/
theorem takeWhile_digits : (ds ++ rest).takeWhile Char.isDigit = ds := by
  rw [List.takeWhile_append_of_pos digits, takeWhile_of_noDigitFirst stop, List.append_nil]

/-- What stands behind digits is found. -/
theorem dropWhile_digits : (ds ++ rest).dropWhile Char.isDigit = rest := by
  rw [List.dropWhile_append_of_pos digits, dropWhile_of_noDigitFirst stop]

end

/-- Digits do not make more than their number allows. -/
theorem ofDigitChars_lt {ds : List Char} : (∀ c ∈ ds, c.isDigit = true) →
    Nat.ofDigitChars 10 ds 0 < 10 ^ ds.length := by
  induction ds with
  | nil => intro _; simp
  | cons c ds ih =>
    intro digits
    obtain ⟨d, small, rfl⟩ := exists_digitChar (digits c (by simp))
    have later := ih fun c mem => digits c (List.mem_cons_of_mem _ mem)
    rw [Nat.ofDigitChars_cons_digitChar_of_lt_ten small, Nat.ofDigitChars_eq_ofDigitChars_zero,
      List.length_cons, Nat.pow_succ]
    have lead : 10 ^ ds.length * (10 * 0 + d) ≤ 10 ^ ds.length * 9 :=
      Nat.mul_le_mul_left _ (by omega)
    omega

/-- The digits that write a number are digits. -/
theorem isDigit_of_mem_digitChars {n : Nat} {c : Char} (mem : c ∈ Layout.digitChars n) :
    c.isDigit = true :=
  Nat.isDigit_of_mem_toDigits (by decide) (by decide) mem

/-- The digits that write a number stand for it. -/
theorem ofDigitChars_digitChars (n : Nat) : Nat.ofDigitChars 10 (Layout.digitChars n) 0 = n :=
  Nat.ofDigitChars_ten_toDigits

/-- Blanks are no digits. -/
theorem isBlank_of_isDigit {c : Char} (h : c.isDigit = true) : isBlank c = false :=
  of_isDigit (P := fun c => isBlank c = false) (by decide) h

end Chars

end Wireframe
