import Wireframe.Chars.Blank
import Wireframe.Decimal.Layout
import Wireframe.Time.Calendar

/-!
# Timestamps

An instant in universal time, to the nanosecond. It is written as date, `T`, time of day and
`Z`, with a fraction of three, six or nine digits as needed. The reader is more generous: a
blank or a small `t` may separate date and time, blanks may stand around the parts, leading
zeros may be missing, and the offset may be `Z`, `UTC`, or a sign with hours and minutes. A
sixtieth second is kept as a leap second.
-/

namespace Wireframe

/-- Seconds since 1970-01-01 and nanoseconds into the second. From a thousand million on the
nanoseconds are those of a leap second that follows. -/
structure Timestamp where
  seconds : Int
  nanos : Nat
deriving DecidableEq

namespace Timestamp

/-- The instant of a date and a time of day. -/
def ofParts (date : Date) (hour minute second nanos : Nat) : Timestamp :=
  ⟨date.toDays * 86400 + hour * 3600 + minute * 60 + second, nanos⟩

/-! ## Writing -/

/-- Digits filled up with zeros to a width. -/
def padded (width n : Nat) : List Char :=
  let digits := Layout.digitChars n
  List.replicate (width - digits.length) '0' ++ digits

/-- Four digits of a year, with a sign where four are not enough. -/
def yearChars (year : Int) : List Char :=
  if 0 ≤ year ∧ year ≤ 9999 then padded 4 year.toNat
  else (if year < 0 then '-' else '+') :: padded 4 year.natAbs

/-- The date of an instant. -/
def date (t : Timestamp) : Date :=
  Date.ofDays (t.seconds / 86400)

/-- Year, month and day with hyphens. -/
def dateChars (t : Timestamp) : List Char :=
  yearChars t.date.year ++ '-' :: padded 2 t.date.month ++ '-' :: padded 2 t.date.day

/-- Hour, minute and second with colons. -/
def timeChars (t : Timestamp) : List Char :=
  let second := (t.seconds % 86400).toNat
  padded 2 (second / 3600) ++ ':' :: padded 2 (second / 60 % 60) ++ ':' ::
    padded 2 (second % 60 + t.nanos / 1000000000)

/-- The fraction of the second with the fewest groups of three digits. -/
def fractionChars (t : Timestamp) : List Char :=
  let nanos := t.nanos % 1000000000
  if nanos = 0 then []
  else if nanos % 1000000 = 0 then '.' :: padded 3 (nanos / 1000000)
  else if nanos % 1000 = 0 then '.' :: padded 6 (nanos / 1000)
  else '.' :: padded 9 nanos

/-- The instant in full. -/
def text (t : Timestamp) : String :=
  String.ofList (t.dateChars ++ 'T' :: t.timeChars ++ t.fractionChars ++ ['Z'])

/-- Date and time of day to the second. -/
def secondsText (t : Timestamp) : String :=
  String.ofList (t.dateChars ++ ' ' :: t.timeChars)

/-! ## Reading -/

/-- A number of one up to `most` digits, behind blanks. -/
def number? (most : Nat) (cs : List Char) : Option (Nat × List Char) :=
  let cs := Chars.trimStart cs
  let digits := (cs.takeWhile Char.isDigit).take most
  if digits = [] then none else some (Nat.ofDigitChars 10 digits 0, cs.drop digits.length)

/-- A year of up to four digits, or of any number of digits behind a sign. -/
def year? (cs : List Char) : Option (Int × List Char) :=
  match Chars.trimStart cs with
  | '-' :: rest =>
    if rest.head?.any Char.isDigit then (number? rest.length rest).map fun (n, r) => (-n, r)
    else none
  | '+' :: rest =>
    if rest.head?.any Char.isDigit then (number? rest.length rest).map fun (n, r) => (n, r)
    else none
  | other => (number? 4 other).map fun (n, r) => (n, r)

/-- A mark behind blanks. -/
def mark? (mark : Char) (cs : List Char) : Option (List Char) :=
  match Chars.trimStart cs with
  | c :: rest => if c = mark then some rest else none
  | [] => none

/-- A fraction of a second, of which nine digits count. -/
def nanos? : List Char → Option (Nat × List Char)
  | '.' :: rest =>
    let digits := (rest.takeWhile Char.isDigit).take 9
    if digits = [] then none
    else
      some (Nat.ofDigitChars 10 digits 0 * pow10 (9 - digits.length),
        rest.dropWhile Char.isDigit)
  | other => some (0, other)

/-- Two digits. -/
def pair? : List Char → Option (Nat × List Char)
  | a :: b :: rest =>
    if a.isDigit ∧ b.isDigit then some (Nat.ofDigitChars 10 [a, b] 0, rest) else none
  | _ => none

/-- Seconds east of universal time. -/
def offset? (cs : List Char) : Option (Int × List Char) :=
  let cs := Chars.trimStart cs
  if (cs.take 3).map Char.toUpper = ['U', 'T', 'C'] then some (0, cs.drop 3) else
    match cs with
    | [] => none
    | sign :: rest =>
      if sign = 'Z' ∨ sign = 'z' then some (0, rest)
      else if sign = '+' ∨ sign = '-' ∨ sign = '\u2212' then do
        let (hours, rest) ← pair? rest
        let (minutes, rest) ← pair? (rest.dropWhile fun c => c = ':' || Chars.isBlank c)
        if minutes < 60 ∧ hours < 24 then
          let seconds : Int := hours * 3600 + minutes * 60
          some (if sign = '+' then seconds else -seconds, rest)
        else none
      else none

/-- A letter T or a blank between date and time. -/
def separator? : List Char → Option (List Char)
  | c :: rest => if c = 'T' ∨ c = 't' ∨ c = ' ' then some rest else none
  | [] => none

/-- The years that dates may have. -/
def yearInRange (year : Int) : Bool :=
  -262143 ≤ year && year ≤ 262142

/-- The instant that a text stands for. Its year is in range both on the clock of the text and in
universal time. -/
def parse? (s : String) : Option Timestamp := do
  let (year, cs) ← year? s.toList
  let (month, cs) ← number? 2 (← mark? '-' cs)
  let (day, cs) ← number? 2 (← mark? '-' cs)
  let (hour, cs) ← number? 2 (← separator? cs)
  let (minute, cs) ← number? 2 (← mark? ':' cs)
  let (second, cs) ← number? 2 (← mark? ':' cs)
  let (nanos, cs) ← nanos? cs
  let (east, cs) ← offset? cs
  let date : Date := ⟨year, month, day⟩
  if Chars.trimStart cs = [] ∧ yearInRange year ∧ date.isValid ∧
      hour < 24 ∧ minute < 60 ∧ second ≤ 60 then
    let leap := if second = 60 then 1000000000 else 0
    let wall := ofParts date hour minute (min second 59) (nanos + leap)
    let instant : Timestamp := { wall with seconds := wall.seconds - east }
    if yearInRange instant.date.year then some instant else none
  else none

end Timestamp

end Wireframe
