import Wireframe.Proofs.Chars.Digits
import Wireframe.Proofs.Time.Calendar
import Wireframe.Time.Timestamp

/-!
# Written timestamps

Instants with a year in range are read back from their text (`Timestamp.parse?_text`), and only
such instants are read (`Timestamp.valid_of_parse?`).
-/

namespace Wireframe

namespace Timestamp

/-- Instants with a year in range, the nanoseconds within their second, or within a leap second
behind the last second of a minute. -/
structure Valid (t : Timestamp) : Prop where
  year : yearInRange t.date.year = true
  nanos : t.nanos < 1000000000 ∨ t.nanos < 2000000000 ∧ t.seconds % 60 = 59

/-! ## Digits -/

theorem isDigit_of_mem_padded {width n : Nat} {c : Char} (mem : c ∈ padded width n) :
    c.isDigit = true := by
  simp only [padded, List.mem_append, List.mem_replicate] at mem
  rcases mem with ⟨-, rfl⟩ | mem
  · decide
  · exact Chars.isDigit_of_mem_digitChars mem

theorem length_padded {width n : Nat} (pos : 0 < width) (fits : n < 10 ^ width) :
    (padded width n).length = width := by
  have short : (Layout.digitChars n).length ≤ width :=
    (Nat.length_toDigits_le_iff (by decide) pos).2 fits
  simp only [padded, List.length_append, List.length_replicate]
  omega

theorem padded_ne_nil (width n : Nat) : padded width n ≠ [] := by
  simp [padded, Layout.digitChars]

/-- Zeros in front do not change a number. -/
theorem ofDigitChars_padded (width n : Nat) : Nat.ofDigitChars 10 (padded width n) 0 = n := by
  simp [padded, Layout.digitChars, Nat.ofDigitChars_append]

theorem trimStart_append {ds : List Char} (some_digit : ds ≠ [])
    (digits : ∀ c ∈ ds, c.isDigit = true) (rest : List Char) :
    Chars.trimStart (ds ++ rest) = ds ++ rest := by
  cases ds with
  | nil => exact absurd rfl some_digit
  | cons c ds =>
    have noBlank : Chars.isBlank c = false := Chars.isBlank_of_isDigit (digits c (by simp))
    simp [Chars.trimStart, noBlank]

/-- Digits are read as a number if no more of them are allowed or no more follow. -/
theorem number?_append {ds rest : List Char} {most : Nat} (some_digit : ds ≠ [])
    (digits : ∀ c ∈ ds, c.isDigit = true) (within : ds.length ≤ most)
    (stop : ds.length = most ∨ Chars.NoDigitFirst rest) :
    number? most (ds ++ rest) = some (Nat.ofDigitChars 10 ds 0, rest) := by
  have taken : ((ds ++ rest).takeWhile Char.isDigit).take most = ds := by
    rcases stop with full | stop
    · rw [List.takeWhile_append_of_pos digits, ← full, List.take_left]
    · rw [Chars.takeWhile_digits digits stop, List.take_of_length_le within]
  simp only [number?, trimStart_append some_digit digits, taken, some_digit, if_false,
    List.drop_left]

/-- A padded number is read back. -/
theorem number?_padded {width n : Nat} (pos : 0 < width) (fits : n < 10 ^ width)
    (rest : List Char) : number? width (padded width n ++ rest) = some (n, rest) := by
  have length_eq := length_padded pos fits
  rw [number?_append (padded_ne_nil width n) (fun c => isDigit_of_mem_padded) length_eq.le
    (.inl length_eq), ofDigitChars_padded]

theorem number?_two {n : Nat} (fits : n < 100) (rest : List Char) :
    number? 2 (padded 2 n ++ rest) = some (n, rest) :=
  number?_padded (by decide) fits rest

/-! ## Parts -/

theorem isDigit_of_append_eq_cons {ds rest tail : List Char} {c : Char} (some_digit : ds ≠ [])
    (digits : ∀ c ∈ ds, c.isDigit = true) (h : ds ++ rest = c :: tail) : c.isDigit = true := by
  cases ds with
  | nil => exact absurd rfl some_digit
  | cons d ds =>
    obtain ⟨rfl, -⟩ := List.cons.inj h
    exact digits d (by simp)

/-- Digits without a sign are read as a year of four digits. -/
theorem year?_append {ds : List Char} (some_digit : ds ≠ [])
    (digits : ∀ c ∈ ds, c.isDigit = true) (rest : List Char) :
    year? (ds ++ rest) = (number? 4 (ds ++ rest)).map fun (n, r) => ((n : Int), r) := by
  rw [year?, trimStart_append some_digit digits]
  split
  · next h => cases isDigit_of_append_eq_cons some_digit digits h
  · next h => cases isDigit_of_append_eq_cons some_digit digits h
  · rfl

/-- A written year is read back. -/
theorem year?_yearChars (year : Int) (rest : List Char) (stop : Chars.NoDigitFirst rest) :
    year? (yearChars year ++ rest) = some (year, rest) := by
  have digits : ∀ n, ∀ c ∈ padded 4 n, c.isDigit = true := fun n c => isDigit_of_mem_padded
  by_cases short : 0 ≤ year ∧ year ≤ 9999
  · have fits : year.toNat < 10 ^ 4 := by omega
    have whole : (year.toNat : Int) = year := by omega
    rw [yearChars, if_pos short, year?_append (padded_ne_nil _ _) (digits _),
      number?_padded (by decide) fits, Option.map_some]
    dsimp only
    rw [whole]
  · obtain ⟨cs, cs_eq⟩ : ∃ cs, cs = padded 4 year.natAbs ++ rest := ⟨_, rfl⟩
    have number : number? cs.length cs = some (year.natAbs, rest) := by
      rw [cs_eq, number?_append (padded_ne_nil _ _) (digits _) (by simp) (.inr stop),
        ofDigitChars_padded]
    have first : cs.head?.any Char.isDigit = true := by
      cases cs with
      | nil => simp [padded_ne_nil] at cs_eq
      | cons c tail =>
        simpa using isDigit_of_append_eq_cons (padded_ne_nil _ _) (digits _) cs_eq.symm
    rw [yearChars, if_neg short, List.cons_append, ← cs_eq]
    by_cases negative : year < 0
    · have sign : Chars.trimStart ('-' :: cs) = '-' :: cs := rfl
      simp [year?, negative, sign, first, number, abs_of_neg]
    · have sign : Chars.trimStart ('+' :: cs) = '+' :: cs := rfl
      simp [year?, negative, sign, first, number, abs_of_nonneg (not_lt.1 negative)]

/-- A mark is found. -/
theorem mark?_cons (mark : Char) (noBlank : Chars.isBlank mark = false) (rest : List Char) :
    mark? mark (mark :: rest) = some rest := by
  simp [mark?, Chars.trimStart, noBlank]

/-- Digits behind a point are read as a fraction, those that are left out being zeros. -/
theorem nanos?_point {width n : Nat} (pos : 0 < width) (most : width ≤ 9) (fits : n < 10 ^ width)
    {rest : List Char} (stop : Chars.NoDigitFirst rest) :
    nanos? ('.' :: (padded width n ++ rest)) = some (n * 10 ^ (9 - width), rest) := by
  have digits : ∀ c ∈ padded width n, c.isDigit = true := fun c => isDigit_of_mem_padded
  have length_eq := length_padded pos fits
  have all : (padded width n).take 9 = padded width n :=
    List.take_of_length_le (by omega)
  simp only [nanos?, Chars.takeWhile_digits digits stop, Chars.dropWhile_digits digits stop, all,
    padded_ne_nil, if_false, ofDigitChars_padded, length_eq, pow10, Nat.pow_eq]

/-- A written fraction is read back. -/
theorem nanos?_fractionChars (t : Timestamp) :
    nanos? (t.fractionChars ++ ['Z']) = some (t.nanos % 1000000000, ['Z']) := by
  have stop : Chars.NoDigitFirst ['Z'] := by simp [Chars.NoDigitFirst]
  obtain ⟨n, n_eq⟩ : ∃ n, n = t.nanos % 1000000000 := ⟨_, rfl⟩
  have below : n < 1000000000 := by omega
  rw [fractionChars, ← n_eq]
  split_ifs with none millis micros
  · rw [none]
    rfl
  · rw [List.cons_append, nanos?_point (by decide) (by decide) (by omega) stop]
    congr 2
    omega
  · rw [List.cons_append, nanos?_point (by decide) (by decide) (by omega) stop]
    congr 2
    omega
  · rw [List.cons_append, nanos?_point (by decide) (by decide) (by omega) stop]
    simp

/-! ## Reading back -/

/-- Months and days have two digits. -/
theorem date_lt {d : Date} (h : d.isValid = true) : d.month < 100 ∧ d.day < 100 := by
  have most : ∀ year month, Date.daysInMonth year month ≤ 31 := by
    intro year month
    unfold Date.daysInMonth
    split_ifs <;> omega
  have := most d.year d.month
  simp [Date.isValid] at h
  omega

/-- An instant is read back from its text. -/
theorem parse?_text {t : Timestamp} (valid : t.Valid) : parse? t.text = some t := by
  have date_valid : t.date.isValid = true := Date.isValid_ofDays _
  have days : t.date.toDays = t.seconds / 86400 := Date.toDays_ofDays _
  obtain ⟨month_lt, day_lt⟩ := date_lt date_valid
  have leap_le : t.nanos / 1000000000 ≤ 1 := by
    have := valid.nanos
    omega
  obtain ⟨second, second_eq⟩ : ∃ second, second = (t.seconds % 86400).toNat := ⟨_, rfl⟩
  have text_eq : t.text.toList = yearChars t.date.year ++ '-' :: (padded 2 t.date.month ++ '-' ::
      (padded 2 t.date.day ++ 'T' :: (padded 2 (second / 3600) ++ ':' ::
        (padded 2 (second / 60 % 60) ++ ':' :: (padded 2 (second % 60 + t.nanos / 1000000000) ++
          (t.fractionChars ++ ['Z'])))))) := by
    simp [text, dateChars, timeChars, second_eq]
  have year := fun rest : List Char =>
    year?_yearChars t.date.year ('-' :: rest) (by simp [Chars.NoDigitFirst])
  have hyphen := mark?_cons '-' (by decide)
  have colon := mark?_cons ':' (by decide)
  have zulu : offset? ['Z'] = some (0, []) := by decide
  rw [parse?, text_eq]
  refine Option.bind_eq_some_iff.2 ⟨_, year _, ?_⟩
  refine Option.bind_eq_some_iff.2 ⟨_, hyphen _, ?_⟩
  refine Option.bind_eq_some_iff.2 ⟨_, number?_two month_lt _, ?_⟩
  refine Option.bind_eq_some_iff.2 ⟨_, hyphen _, ?_⟩
  refine Option.bind_eq_some_iff.2 ⟨_, number?_two day_lt _, ?_⟩
  refine Option.bind_eq_some_iff.2 ⟨_, rfl, ?_⟩
  refine Option.bind_eq_some_iff.2 ⟨_, number?_two (by omega) _, ?_⟩
  refine Option.bind_eq_some_iff.2 ⟨_, colon _, ?_⟩
  refine Option.bind_eq_some_iff.2 ⟨_, number?_two (by omega) _, ?_⟩
  refine Option.bind_eq_some_iff.2 ⟨_, colon _, ?_⟩
  refine Option.bind_eq_some_iff.2 ⟨_, number?_two (by omega) _, ?_⟩
  refine Option.bind_eq_some_iff.2 ⟨_, nanos?_fractionChars t, ?_⟩
  refine Option.bind_eq_some_iff.2 ⟨_, zulu, ?_⟩
  have fields : Chars.trimStart [] = [] ∧ yearInRange t.date.year ∧ t.date.isValid ∧
      second / 3600 < 24 ∧ second / 60 % 60 < 60 ∧ second % 60 + t.nanos / 1000000000 ≤ 60 := by
    refine ⟨rfl, valid.year, date_valid, ?_, ?_, ?_⟩ <;> omega
  have seconds_eq : t.date.toDays * 86400 + (second / 3600 : Nat) * 3600 +
      (second / 60 % 60 : Nat) * 60 + (min (second % 60 + t.nanos / 1000000000) 59 : Nat) - 0 =
      t.seconds := by
    rw [days]
    have := valid.nanos
    omega
  have nanos_eq : (t.nanos % 1000000000 +
      if second % 60 + t.nanos / 1000000000 = 60 then 1000000000 else 0) = t.nanos := by
    have := valid.nanos
    split_ifs <;> omega
  dsimp only
  rw [if_pos fields, ofParts, seconds_eq, nanos_eq, if_pos valid.year]

/-! ## What is read -/

theorem nanos?_lt {cs rest : List Char} {n : Nat} (h : nanos? cs = some (n, rest)) :
    n < 1000000000 := by
  unfold nanos? at h
  split at h
  · next tail =>
    dsimp only at h
    split_ifs at h with none
    obtain ⟨rfl, -⟩ := Prod.mk.inj (Option.some.inj h)
    obtain ⟨ds, ds_eq⟩ : ∃ ds, ds = (tail.takeWhile Char.isDigit).take 9 := ⟨_, rfl⟩
    rw [← ds_eq]
    have digits : ∀ c ∈ ds, c.isDigit = true := fun c mem =>
      List.all_eq_true.1 List.all_takeWhile c (List.mem_of_mem_take (ds_eq ▸ mem))
    have length_le : ds.length ≤ 9 := by
      rw [ds_eq, List.length_take]
      omega
    calc Nat.ofDigitChars 10 ds 0 * 10 ^ (9 - ds.length)
        < 10 ^ ds.length * 10 ^ (9 - ds.length) :=
          Nat.mul_lt_mul_of_pos_right (Chars.ofDigitChars_lt digits) (by positivity)
      _ = 10 ^ 9 := by rw [← pow_add, Nat.add_sub_cancel' length_le]
  · obtain ⟨rfl, -⟩ := Prod.mk.inj (Option.some.inj h)
    decide

/-- Offsets are whole minutes. -/
theorem offset?_mod {cs rest : List Char} {east : Int} (h : offset? cs = some (east, rest)) :
    east % 60 = 0 := by
  unfold offset? at h
  dsimp only at h
  split_ifs at h
  · obtain ⟨rfl, -⟩ := Prod.mk.inj (Option.some.inj h)
    decide
  split at h
  · cases h
  split at h
  · obtain ⟨rfl, -⟩ := Prod.mk.inj (Option.some.inj h)
    decide
  split at h
  · obtain ⟨⟨hours, cs₁⟩, -, h⟩ := Option.bind_eq_some_iff.1 h
    obtain ⟨⟨minutes, cs₂⟩, -, h⟩ := Option.bind_eq_some_iff.1 h
    dsimp only at h
    split_ifs at h <;> obtain ⟨rfl, -⟩ := Prod.mk.inj (Option.some.inj h) <;> omega
  · cases h

/-- What is read is an instant with a year in range. -/
theorem valid_of_parse? {s : String} {t : Timestamp} (h : parse? s = some t) : t.Valid := by
  unfold parse? at h
  obtain ⟨⟨year, cs₁⟩, -, h⟩ := Option.bind_eq_some_iff.1 h
  obtain ⟨cs₂, -, h⟩ := Option.bind_eq_some_iff.1 h
  obtain ⟨⟨month, cs₃⟩, -, h⟩ := Option.bind_eq_some_iff.1 h
  obtain ⟨cs₄, -, h⟩ := Option.bind_eq_some_iff.1 h
  obtain ⟨⟨day, cs₅⟩, -, h⟩ := Option.bind_eq_some_iff.1 h
  obtain ⟨cs₆, -, h⟩ := Option.bind_eq_some_iff.1 h
  obtain ⟨⟨hour, cs₇⟩, -, h⟩ := Option.bind_eq_some_iff.1 h
  obtain ⟨cs₈, -, h⟩ := Option.bind_eq_some_iff.1 h
  obtain ⟨⟨minute, cs₉⟩, -, h⟩ := Option.bind_eq_some_iff.1 h
  obtain ⟨cs₁₀, -, h⟩ := Option.bind_eq_some_iff.1 h
  obtain ⟨⟨second, cs₁₁⟩, -, h⟩ := Option.bind_eq_some_iff.1 h
  obtain ⟨⟨nanos, cs₁₂⟩, nanos_eq, h⟩ := Option.bind_eq_some_iff.1 h
  obtain ⟨⟨east, cs₁₃⟩, offset_eq, h⟩ := Option.bind_eq_some_iff.1 h
  have nanos_lt := nanos?_lt nanos_eq
  have whole := offset?_mod offset_eq
  dsimp only at h
  split_ifs at h with fields leap inRange inRange
  · obtain rfl := Option.some.inj h
    refine ⟨inRange, .inr ⟨?_, ?_⟩⟩
    · simp only [ofParts]
      omega
    · simp only [ofParts]
      omega
  · obtain rfl := Option.some.inj h
    refine ⟨inRange, .inl ?_⟩
    simpa [ofParts] using nanos_lt

end Timestamp

end Wireframe
