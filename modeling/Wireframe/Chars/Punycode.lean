/-!
# Punycode

Text of any script in letters, digits and hyphens. The plain characters come first, a hyphen
ends them, and the others follow as insertions, ordered by code and then by place. An insertion
tells how many possible ones lie between it and the one before it, counting all places for one
code and then all places for the next. The numerals are of varying base: their digits come the
least first, and where a numeral ends depends on the size of those before it.
-/

namespace Wireframe.Punycode

/-! ## Numerals -/

/-- A digit: the small letters, then the figures. -/
def digit (n : Nat) : Char :=
  if n < 26 then Char.ofNat ('a'.toNat + n) else Char.ofNat ('0'.toNat + (n - 26))

/-- The value of a digit of either case. -/
def digitValue? (c : Char) : Option Nat :=
  let n := c.toLower.toNat
  if c.isDigit then some (n - '0'.toNat + 26)
  else if 'a'.toNat ≤ n ∧ n ≤ 'z'.toNat then some (n - 'a'.toNat)
  else none

/-- The least value of a digit that another one follows. -/
def threshold (bias position : Nat) : Nat :=
  max 1 (min 26 (position - bias))

/-- Where a numeral like that is expected to end. -/
def biasFor (position size : Nat) : Nat :=
  if 455 < size then biasFor (position + 36) (size / 35)
  else position + 36 * size / (size + 38)
termination_by size

/-- The bias behind a numeral, from the number of characters then there. -/
def adapted (numeral count : Nat) (isFirst : Bool) : Nat :=
  let size := if isFirst then numeral / 700 else numeral / 2
  biasFor 0 (size + size / count)

/-- The digits of a number, from a position on. -/
def numeral (bias position n : Nat) : List Char :=
  let t := threshold bias position
  if n < t then [digit n]
  else digit (t + (n - t) % (36 - t)) :: numeral bias (position + 36) ((n - t) / (36 - t))
termination_by n
decreasing_by
  have : 1 ≤ threshold bias position := Nat.le_max_left ..
  have : (n - threshold bias position) / (36 - threshold bias position) ≤
      n - threshold bias position := Nat.div_le_self ..
  omega

/-! ## Writing -/

/-- A character put into the plainer and earlier ones: its code, its place among them, and how
many there are. -/
structure Insertion where
  code : Nat
  place : Nat
  count : Nat

/-- Whether a character needs no code. -/
def isPlain (c : Char) : Bool :=
  c.toNat < 0x80

/-- The insertions of characters, `before` standing in front of them. -/
def insertionsFrom (all before : List Char) : List Char → List Insertion
  | [] => []
  | c :: rest =>
    let later := insertionsFrom all (before ++ [c]) rest
    if isPlain c then later
    else
      let place := before.countP fun d => d.toNat ≤ c.toNat
      let count := all.countP (fun d => d.toNat < c.toNat) + before.count c
      ⟨c.toNat, place, count⟩ :: later

/-- The insertions of a text in their order. -/
def insertions (cs : List Char) : List Insertion :=
  (insertionsFrom cs [] cs).mergeSort fun a b => a.code ≤ b.code

/-- Where the writer is: the code and the place where the next insertion may be at the earliest,
and the bias. -/
structure Writing where
  code : Nat
  place : Nat
  bias : Nat
  isFirst : Bool

/-- Before any insertion. -/
def Writing.start : Writing :=
  ⟨0x80, 0, 72, true⟩

/-- Insertions one after the other. -/
def numerals (s : Writing) : List Insertion → List Char
  | [] => []
  | i :: rest =>
    let places := i.count + 1
    let skipped := (i.code - s.code) * places + i.place - s.place
    numeral s.bias 36 skipped ++
      numerals ⟨i.code, i.place + 1, adapted skipped places s.isFirst, false⟩ rest

/-- A text in letters, digits and hyphens. -/
def encode (cs : List Char) : List Char :=
  let plain := cs.filter isPlain
  (if plain = [] then [] else plain ++ ['-']) ++ numerals .start (insertions cs)

/-! ## Reading -/

/-- Where the reader is: the characters so far, the code and the place of the last insertion
counted together, what the numeral has added to that, and what its next digit counts. -/
structure Reading where
  done : List Char
  code : Nat
  start : Nat
  reached : Nat
  weight : Nat
  position : Nat
  bias : Nat

/-- Behind the plain characters. -/
def Reading.ofPlain (plain : List Char) : Reading :=
  ⟨plain, 0x80, 0, 0, 1, 36, 72⟩

/-- One more digit. At the end of a numeral a character is put in. -/
def Reading.add? (s : Reading) (c : Char) : Option Reading := do
  let d ← digitValue? c
  let t := threshold s.bias s.position
  let reached := s.reached + d * s.weight
  if t ≤ d then
    some { s with reached, weight := s.weight * (36 - t), position := s.position + 36 }
  else
    let places := s.done.length + 1
    let code := s.code + reached / places
    let place := reached % places
    if Nat.isValidChar code then
      some {
        done := s.done.take place ++ Char.ofNat code :: s.done.drop place
        code, start := place + 1, reached := place + 1, weight := 1, position := 36
        bias := adapted (reached - s.start) places (s.start = 0) }
    else none

/-- The text that was written so. A hyphen ends plain characters, so there is one at least. -/
def decode? (cs : List Char) : Option (List Char) := do
  let digits := (cs.reverse.takeWhile (· ≠ '-')).reverse
  let plain := cs.take (cs.length - digits.length)
  if plain = ['-'] ∨ !plain.all isPlain then none
  else
    let s ← digits.foldlM Reading.add? (Reading.ofPlain plain.dropLast)
    if s.position = 36 then some s.done else none

end Wireframe.Punycode
