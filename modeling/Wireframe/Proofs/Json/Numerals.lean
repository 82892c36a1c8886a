import Wireframe.Proofs.Decimal.Shortest
import Wireframe.Proofs.Json.Scanning

/-!
# Written numbers

A number is written as a numeral that stands for it (`Number.Valid.readsBack`). The digits of an
integer are read as that integer. The four forms in which a double is written all come apart into
digits before the point, digits behind it and a power (`Numeral`). They spell the value of its
shortest decimal, wherever the point stands, and a decimal of that value reads as the double.
-/

namespace Wireframe

namespace Number

open Chars Layout

/-! ## Digits before the point -/

/-- Digits that may stand before the point : no zero stands in front of others. -/
structure IsWhole (cs : List Char) : Prop where
  ne_nil : cs ≠ []
  isDigit : ∀ c ∈ cs, c.isDigit = true
  lead : cs.head? = some '0' → cs.length = 1

theorem digitChar_ne_zero : ∀ d < 10, d ≠ 0 → Nat.digitChar d ≠ '0' := by
  decide

/-- Only zero is written with a zero in front. -/
theorem head?_digitChars_ne {n : Nat} (pos : n ≠ 0) : (digitChars n).head? ≠ some '0' := by
  induction n using Nat.strongRecOn with
  | ind n ih =>
    rw [digitChars, Nat.toDigits_eq_if (by decide)]
    split
    · next small =>
      rw [List.head?_cons, ne_eq, Option.some_inj]
      exact digitChar_ne_zero n small pos
    · rw [List.head?_append_of_ne_nil _ Nat.toDigits_ne_nil]
      exact ih (n / 10) (by omega) (by omega)

theorem isWhole_digitChars (n : Nat) : IsWhole (digitChars n) := by
  refine ⟨Nat.toDigits_ne_nil, fun c => isDigit_of_mem_digitChars, fun lead => ?_⟩
  have zero : n = 0 := Decidable.not_not.1 fun pos => head?_digitChars_ne pos lead
  rw [zero]
  rfl

/-- More digits may follow digits that begin with no zero. -/
theorem IsWhole.append {cs ds : List Char} (isWhole : IsWhole cs) (lead : cs.head? ≠ some '0')
    (isDigit : ∀ c ∈ ds, c.isDigit = true) : IsWhole (cs ++ ds) := by
  refine ⟨by simp [isWhole.ne_nil], fun c mem => ?_, fun zero => ?_⟩
  · exact (List.mem_append.1 mem).elim (isWhole.isDigit c) (isDigit c)
  · rw [List.head?_append_of_ne_nil _ isWhole.ne_nil] at zero
    exact absurd zero lead

/-- A minus in front of the characters of a negative number. -/
def signed (negative : Bool) (cs : List Char) : List Char :=
  if negative then '-' :: cs else cs

/-- The characters behind the sign. -/
theorem unsigned_signed (negative : Bool) (cs : List Char) :
    (if negative = true then (signed negative cs).tail else signed negative cs) = cs := by
  cases negative <;> rfl

section

variable {whole rest : List Char} (isWhole : IsWhole whole) (negative : Bool)
include isWhole

/-- The first character tells the sign. -/
theorem head?_signed : (signed negative (whole ++ rest)).head? = some '-' ↔ negative = true := by
  cases negative with
  | true => simp [signed]
  | false =>
    obtain ⟨c, more, rfl⟩ := List.exists_cons_of_ne_nil isWhole.ne_nil
    have digit := isWhole.isDigit c (by simp)
    have other : c ≠ '-' := by
      rintro rfl
      cases digit
    simp [signed, other]

theorem not_refused : ¬ (whole = [] ∨ (whole.head? = some '0' ∧ whole.length > 1)) := by
  rintro (nil | ⟨zero, more⟩)
  · exact isWhole.ne_nil nil
  · have := isWhole.lead zero
    omega

/-- Digits alone are read as an integer that fits a word, except for a negative zero. -/
theorem ofChars?_whole {z : Int}
    (z_eq : (if negative then -Nat.ofDigitChars 10 whole 0 else Nat.ofDigitChars 10 whole 0 : Int) = z)
    (word : isWord z = true) (noZero : negative = true → z ≠ 0) :
    ofChars? (signed negative whole) = some (.integer z) := by
  have stop : NoDigitFirst [] := by simp [NoDigitFirst]
  have head : (signed negative (whole ++ [])).head? = some '-' ↔ _ := head?_signed isWhole negative
  have taken := takeWhile_digits isWhole.isDigit stop
  have dropped := dropWhile_digits isWhole.isDigit stop
  rw [List.append_nil] at head taken dropped
  unfold ofChars?
  simp only [head, unsigned_signed, taken, dropped, if_neg (not_refused isWhole), z_eq]
  refine if_pos ⟨trivial, word, ?_⟩
  rintro ⟨minus, zero⟩
  refine noZero minus ?_
  rw [← z_eq, zero]
  simp

/-- Digits with a point or a power behind them are read as a decimal. -/
theorem ofChars?_decimal (stop : NoDigitFirst rest) (some_rest : rest ≠ []) {places mark : List Char}
    {power : Int} (fraction_eq : fraction? rest = some (places, mark))
    (power_eq : power? mark = some power) :
    ofChars? (signed negative (whole ++ rest)) =
      (Double.ofDecimal? negative (Nat.ofDigitChars 10 (whole ++ places) 0)
        (power - places.length)).map .double := by
  unfold ofChars?
  simp only [head?_signed isWhole, unsigned_signed, takeWhile_digits isWhole.isDigit stop,
    dropWhile_digits isWhole.isDigit stop, if_neg (not_refused isWhole), fraction_eq, power_eq,
    some_rest, false_and, if_false, Bool.decide_eq_true]

end

/-- An integer is written as a numeral that stands for it. -/
theorem readsBack_integer {z : Int} (word : isWord z = true) : (integer z).ReadsBack := by
  have written : integerChars z = signed (decide (z < 0)) (digitChars z.natAbs) := by
    simp [integerChars, signed]
  rw [ReadsBack, chars, written]
  refine ofChars?_whole (isWhole_digitChars _) _ ?_ word ?_
  · rw [ofDigitChars_digitChars]
    split
    · next negative =>
      have := of_decide_eq_true negative
      omega
    · next negative =>
      have : ¬ z < 0 := fun minus => negative (decide_eq_true minus)
      omega
  · intro negative
    have := of_decide_eq_true negative
    omega

/-! ## Numerals with a point or a power -/

/-- Digits behind the point, and no point where there are none. -/
def point (places : List Char) : List Char :=
  if places = [] then [] else '.' :: places

/-- The parts of a numeral that is read as a double. -/
structure Numeral where
  whole : List Char
  places : List Char
  mark : List Char
  power : Int
  isWhole : IsWhole whole
  isDigit_places : ∀ c ∈ places, c.isDigit = true
  head_mark : ∀ c ∈ mark.head?, c = 'e'
  power_eq : power? mark = some power
  not_integer : places = [] → mark ≠ []

namespace Numeral

variable (n : Numeral)

def chars : List Char :=
  n.whole ++ (point n.places ++ n.mark)

/-- The decimal that is spelled. -/
def value : Decimal :=
  ⟨Nat.ofDigitChars 10 (n.whole ++ n.places) 0, n.power - n.places.length⟩

theorem noDigitFirst_mark : NoDigitFirst n.mark := by
  intro c head
  rw [n.head_mark c head]
  rfl

theorem noDigitFirst_rest : NoDigitFirst (point n.places ++ n.mark) := by
  unfold point
  split
  · exact n.noDigitFirst_mark
  · intro c head
    obtain rfl : '.' = c := by simpa using head
    rfl

theorem rest_ne_nil : point n.places ++ n.mark ≠ [] := by
  unfold point
  split
  · next none => exact n.not_integer none
  · simp

theorem fraction?_rest : fraction? (point n.places ++ n.mark) = some (n.places, n.mark) := by
  unfold point
  split
  · next none =>
    rw [none, List.nil_append]
    unfold fraction?
    split
    · next rest mark_eq =>
      have := n.head_mark '.' (by simp [mark_eq])
      cases this
    · rfl
  · next some_place =>
    simp only [List.cons_append, fraction?]
    rw [takeWhile_digits n.isDigit_places n.noDigitFirst_mark,
      dropWhile_digits n.isDigit_places n.noDigitFirst_mark, if_neg some_place]

/-- A numeral is read as the double nearest to the decimal that it spells. -/
theorem ofChars?_signed (negative : Bool) : ofChars? (signed negative n.chars) =
    (Double.ofDecimal? negative n.value.digits n.value.power).map .double :=
  ofChars?_decimal n.isWhole negative n.noDigitFirst_rest n.rest_ne_nil n.fraction?_rest n.power_eq

end Numeral

/-! ## The forms of a double -/

/-- A signed power behind its mark is read. -/
theorem power?_mark (p : Int) :
    power? ('e' :: (if p < 0 then '-' else '+') :: digitChars p.natAbs) = some p := by
  have some_digit : digitChars p.natAbs ≠ [] := Nat.toDigits_ne_nil
  have digits : ¬ (digitChars p.natAbs).any (fun c => !c.isDigit) = true := by
    simpa using fun c => isDigit_of_mem_digitChars
  by_cases negative : p < 0
  · simp [power?, negative, some_digit, digits, ofDigitChars_digitChars, abs_of_neg]
  · simp [power?, negative, some_digit, digits, ofDigitChars_digitChars, not_lt.1]

/-- Zeros in front do not count. -/
theorem ofDigitChars_zeros (zeros : Nat) (cs : List Char) :
    Nat.ofDigitChars 10 (List.replicate zeros '0' ++ cs) 0 = Nat.ofDigitChars 10 cs 0 := by
  rw [Nat.ofDigitChars_append, Nat.ofDigitChars_replicate_zero, Nat.mul_zero]

theorem isDigit_of_mem_zeros {zeros : Nat} {c : Char} (mem : c ∈ List.replicate zeros '0') :
    c.isDigit = true := by
  rw [List.eq_of_mem_replicate mem]
  rfl

/-- Digits with zeros and a point behind them. -/
theorem exists_numeral_whole (digits zeros : Nat) (lead : digits = 0 → zeros = 0) :
    ∃ n : Numeral, n.chars = digitChars digits ++ List.replicate zeros '0' ++ ['.', '0'] ∧
      n.value.toRat = Decimal.toRat ⟨digits, zeros⟩ := by
  have isWhole : IsWhole (digitChars digits ++ List.replicate zeros '0') := by
    by_cases zero : digits = 0
    · rw [lead zero, List.replicate_zero, List.append_nil]
      exact isWhole_digitChars digits
    · exact (isWhole_digitChars digits).append (head?_digitChars_ne zero)
        fun c => isDigit_of_mem_zeros
  refine ⟨⟨_, ['0'], [], 0, isWhole, by simp, by simp, rfl, by simp⟩, by simp [Numeral.chars, point],
    ?_⟩
  have value : Nat.ofDigitChars 10 (digitChars digits ++ List.replicate zeros '0' ++ ['0']) 0 =
      10 ^ (zeros + 1) * digits := by
    rw [List.append_assoc, ← List.replicate_succ', Nat.ofDigitChars_append,
      Nat.ofDigitChars_replicate_zero, ofDigitChars_digitChars]
  simp only [Numeral.value, value, Decimal.toRat, List.length_singleton]
  push_cast
  rw [zpow_natCast, pow_succ, zpow_neg, zpow_one]
  field_simp

/-- Digits with the point between them. -/
theorem exists_numeral_between (digits : Nat) {places : Nat} (some_place : 0 < places)
    (fewer : places < (digitChars digits).length) :
    ∃ n : Numeral, n.chars = (digitChars digits).take ((digitChars digits).length - places) ++
      '.' :: (digitChars digits).drop ((digitChars digits).length - places) ∧
      n.value = ⟨digits, -(places : Int)⟩ := by
  obtain ⟨ne_nil, isDigit, lead⟩ := isWhole_digitChars digits
  have count : (digitChars digits).length - ((digitChars digits).length - places) = places := by
    omega
  have isWhole : IsWhole ((digitChars digits).take ((digitChars digits).length - places)) := by
    refine ⟨by simp [ne_nil]; omega, fun c mem => isDigit c (List.mem_of_mem_take mem),
      fun zero => ?_⟩
    rw [List.head?_take, if_neg (by omega)] at zero
    have := lead zero
    omega
  have some_drop : (digitChars digits).drop ((digitChars digits).length - places) ≠ [] := by
    simp only [ne_eq, List.drop_eq_nil_iff]
    omega
  refine ⟨⟨_, _, [], 0, isWhole, fun c mem => isDigit c (List.mem_of_mem_drop mem), by simp, rfl,
    fun none => absurd none some_drop⟩, ?_, ?_⟩
  · simp [Numeral.chars, point, some_drop]
  · rw [Numeral.value, List.take_append_drop, List.length_drop, count,
      ofDigitChars_digitChars, zero_sub]

/-- Digits behind the point, and zeros between it and them. -/
theorem exists_numeral_behind (digits : Nat) {places : Nat}
    (most : (digitChars digits).length ≤ places) :
    ∃ n : Numeral, n.chars = '0' :: '.' ::
      (List.replicate (places - (digitChars digits).length) '0' ++ digitChars digits) ∧
      n.value = ⟨digits, -(places : Int)⟩ := by
  have isWhole : IsWhole ['0'] := isWhole_digitChars 0
  have some_place : List.replicate (places - (digitChars digits).length) '0' ++
      digitChars digits ≠ [] :=
    List.append_ne_nil_of_right_ne_nil _ Nat.toDigits_ne_nil
  refine ⟨⟨['0'], _, [], 0, isWhole, fun c mem => ?_, by simp, rfl,
    fun none => absurd none some_place⟩, ?_, ?_⟩
  · exact (List.mem_append.1 mem).elim isDigit_of_mem_zeros isDigit_of_mem_digitChars
  · simp only [Numeral.chars, point, if_neg some_place, List.append_nil, List.singleton_append]
  · have value : Nat.ofDigitChars 10 (['0'] ++ (List.replicate (places -
        (digitChars digits).length) '0' ++ digitChars digits)) 0 = digits := by
      rw [← List.replicate_one, ofDigitChars_zeros, ofDigitChars_zeros, ofDigitChars_digitChars]
    rw [Numeral.value, value, List.length_append, List.length_replicate,
      Nat.sub_add_cancel most, zero_sub]

/-- One digit before the point and a power. -/
theorem exists_numeral_scientific (d : Decimal) :
    ∃ n : Numeral, n.chars = scientificChars d ∧ n.value = d := by
  obtain ⟨ne_nil, isDigit, -⟩ := isWhole_digitChars d.digits
  have magnitude := ofDigitChars_digitChars d.digits
  unfold scientificChars
  dsimp only
  generalize digitChars d.digits = ds at ne_nil isDigit magnitude ⊢
  obtain ⟨lead, places, rfl⟩ := List.exists_cons_of_ne_nil ne_nil
  have isWhole : IsWhole [lead] := ⟨by simp, fun c mem => isDigit c (by simp_all), fun _ => rfl⟩
  refine ⟨⟨[lead], places, _, _, isWhole, fun c mem => isDigit c (by simp [mem]), by simp,
    power?_mark (d.power + (lead :: places).length - 1), by simp⟩, ?_, ?_⟩
  · cases places <;> simp [Numeral.chars, point]
  · simp only [Numeral.value, List.singleton_append, magnitude, List.length_cons]
    congr 1
    omega

/-- Positional digits are a numeral. Zero has no power here, since it has no digits to move. -/
theorem exists_numeral_positional (d : Decimal) (lead : d.digits = 0 → d.power = 0) :
    ∃ n : Numeral, n.chars = layout.positionalChars d ∧ n.value.toRat = d.toRat := by
  obtain ⟨digits, power⟩ := d
  cases power with
  | ofNat zeros => exact exists_numeral_whole digits zeros fun none => Int.ofNat.inj (lead none)
  | negSucc k =>
    simp only [positionalChars]
    split
    · next fewer =>
      obtain ⟨n, chars_eq, value_eq⟩ := exists_numeral_between digits k.succ_pos fewer
      exact ⟨n, chars_eq, congrArg _ value_eq⟩
    · next more =>
      obtain ⟨n, chars_eq, value_eq⟩ := exists_numeral_behind digits (not_lt.1 more)
      exact ⟨n, chars_eq, congrArg _ value_eq⟩

/-- The text of a double is a numeral behind its sign, and spells the shortest decimal. -/
theorem exists_numeral {x : Double} {d : Decimal} (d_eq : x.shortest .toEven = d)
    (lead : d.digits = 0 → d.power = 0) :
    ∃ n : Numeral, layout.chars x = signed x.negative n.chars ∧ n.value.toRat = d.toRat := by
  have written : layout.chars x = signed x.negative
      (if layout.positional (d.power + Decimal.width d.digits - 1) then layout.positionalChars d
        else scientificChars d) := by
    rw [← d_eq]
    rfl
  rw [written]
  split
  · obtain ⟨n, chars_eq, value_eq⟩ := exists_numeral_positional d lead
    exact ⟨n, congrArg _ chars_eq.symm, value_eq⟩
  · obtain ⟨n, chars_eq, value_eq⟩ := exists_numeral_scientific d
    exact ⟨n, congrArg _ chars_eq.symm, congrArg _ value_eq⟩

/-- A double without digits is a zero. -/
theorem eq_zero_of_mantissa {x : Double} (zero : x.mantissa = 0) : x = .zero x.negative := by
  obtain ⟨negative, mantissa, exponent, canonical⟩ := x
  obtain rfl : mantissa = 0 := zero
  have lowest : exponent = -1074 := canonical.2.2.2.resolve_left (by decide)
  subst lowest
  rfl

/-- A double is written as a numeral that stands for it. -/
theorem readsBack_double (x : Double) : (double x).ReadsBack := by
  by_cases zero : x.mantissa = 0
  · have shortest_eq : x.shortest .toEven = ⟨0, 0⟩ := if_pos zero
    obtain ⟨n, chars_eq, value_eq⟩ := exists_numeral shortest_eq fun _ => rfl
    have digits : n.value.digits = 0 := by
      simpa [Decimal.toRat, zpow_ne_zero] using value_eq
    rw [ReadsBack, chars, chars_eq, n.ofChars?_signed, Double.ofDecimal?, if_pos (.inl digits)]
    exact congrArg (some ∘ double) (eq_zero_of_mantissa zero).symm
  · have near := Double.near_shortest zero .toEven
    have some_digit : (x.shortest .toEven).digits ≠ 0 := by
      intro none
      have := near.pos zero
      simp [Decimal.toRat, none] at this
    obtain ⟨n, chars_eq, value_eq⟩ := exists_numeral rfl fun none => absurd none some_digit
    rw [← value_eq] at near
    rw [ReadsBack, chars, chars_eq, n.ofChars?_signed, Double.ofDecimal?_of_near zero near]
    rfl

/-- Every number that a numeral stands for is written as one. -/
theorem Valid.readsBack {n : Number} (valid : n.Valid) : n.ReadsBack := by
  cases n with
  | integer z => exact readsBack_integer valid
  | double x => exact readsBack_double x

end Number

end Wireframe
