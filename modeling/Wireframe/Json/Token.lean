import Wireframe.Chars.Hexadecimal
import Wireframe.Json.Basic

/-!
# JSON tokens

The words of JSON text. `Token.chars` writes a token and `Token.feed?` splits a text into tokens
and hands them on. The scanner reads one character at a time and keeps what it is in the middle
of; a word or a numeral ends where a character comes that cannot continue it.

Strings escape the quote, the backslash and the control characters below U+0020, and nothing
else. The scanner reads every escape of JSON, a pair of surrogates as one character; it
refuses raw control characters and surrogates that stand alone. A numeral that no finite
double is near to is refused as well.
-/

namespace Wireframe

/-- One token of JSON text. -/
inductive Token where
  | openArray
  | closeArray
  | openObject
  | closeObject
  | comma
  | colon
  | null
  | bool (value : Bool)
  | number (value : Number)
  | string (value : String)
deriving DecidableEq

namespace Number

/-- Doubles in JSON keep `.0` and go over to powers outside `10 ^ -5` to `10 ^ 15`. -/
def layout : Layout where
  tie := .toEven
  positional power := -5 ≤ power && power < 16
  keepsPoint := true

/-- Decimal digits of an integer behind its sign. -/
def integerChars (z : Int) : List Char :=
  if z < 0 then '-' :: Layout.digitChars z.natAbs else Layout.digitChars z.natAbs

/-- The JSON text of a number. -/
def chars : Number → List Char
  | integer value => integerChars value
  | double value => layout.chars value

/-- The JSON text of a number as a string. -/
def text (n : Number) : String :=
  String.ofList n.chars

/-- An integer that fits 64 bits, signed or unsigned. -/
def isWord (z : Int) : Bool :=
  -(pow2 63) ≤ z && z < pow2 64

/-- Digits behind the point, none where no point comes. -/
def fraction? : List Char → Option (List Char × List Char)
  | '.' :: rest =>
    let digits := rest.takeWhile Char.isDigit
    if digits = [] then none else some (digits, rest.dropWhile Char.isDigit)
  | rest => some ([], rest)

/-- The power behind its mark. Nothing may follow it. -/
def power? : List Char → Option Int
  | mark :: rest =>
    if mark ≠ 'e' ∧ mark ≠ 'E' then none else
      let negative := rest.head? = some '-'
      let digits := if negative ∨ rest.head? = some '+' then rest.tail else rest
      if digits = [] ∨ digits.any (fun c => !c.isDigit) then none
      else
        let magnitude : Int := Nat.ofDigitChars 10 digits 0
        some (if negative then -magnitude else magnitude)
  | [] => some 0

/-- The number that a numeral stands for, none for text that is no numeral of JSON. An integer
that fits no word, and a negative zero, are doubles. -/
def ofChars? (cs : List Char) : Option Number :=
  let negative := cs.head? = some '-'
  let unsigned := if negative then cs.tail else cs
  let whole := unsigned.takeWhile Char.isDigit
  let rest := unsigned.dropWhile Char.isDigit
  if whole = [] ∨ (whole.head? = some '0' ∧ whole.length > 1) then none else
    let magnitude := Nat.ofDigitChars 10 whole 0
    let value : Int := if negative then -magnitude else magnitude
    if rest = [] ∧ isWord value ∧ ¬(negative ∧ magnitude = 0) then some (.integer value) else
      match fraction? rest with
      | none => none
      | some (places, rest) =>
        match power? rest with
        | none => none
        | some power =>
          let digits := Nat.ofDigitChars 10 (whole ++ places) 0
          (Double.ofDecimal? negative digits (power - places.length)).map .double

end Number

namespace Token

/-- A hexadecimal digit in small letters. -/
def hexDigit (n : Nat) : Char :=
  Nat.digitChar n

/-- One character of a string as JSON writes it. -/
def escapeChar (c : Char) : List Char :=
  if c = '"' then ['\\', '"']
  else if c = '\\' then ['\\', '\\']
  else if c = '\x08' then ['\\', 'b']
  else if c = '\x09' then ['\\', 't']
  else if c = '\x0A' then ['\\', 'n']
  else if c = '\x0C' then ['\\', 'f']
  else if c = '\x0D' then ['\\', 'r']
  else if c.toNat < 0x20 then
    ['\\', 'u', '0', '0', hexDigit (c.toNat / 16), hexDigit (c.toNat % 16)]
  else [c]

/-- A string between quotes. -/
def quoted (s : String) : List Char :=
  '"' :: s.toList.flatMap escapeChar ++ ['"']

/-- The text of a token. -/
def chars : Token → List Char
  | openArray => ['[']
  | closeArray => [']']
  | openObject => ['\x7b']
  | closeObject => ['\x7d']
  | comma => [',']
  | colon => [':']
  | null => ['n', 'u', 'l', 'l']
  | bool true => ['t', 'r', 'u', 'e']
  | bool false => ['f', 'a', 'l', 's', 'e']
  | number value => value.chars
  | string value => quoted value

/-- What the scanner is in the middle of. Characters read so far stand in reverse. -/
inductive Scan where
  | between
  | word (letters : List Char)
  | numeral (signs : List Char)
  | text (done : List Char)
  | escape (done : List Char)
  /-- Hexadecimal digits of an escape: how many are missing, and their value so far. `high` is
  a leading surrogate that waits for its partner. -/
  | code (done : List Char) (high : Option Nat) (missing value : Nat)
  /-- A leading surrogate was read, a backslash has to follow. -/
  | partner (done : List Char) (high : Nat)
  /-- Then the letter of a code escape. -/
  | partnerEscape (done : List Char) (high : Nat)

/-- Space, tab and line ends may stand between tokens. -/
def isSpace (c : Char) : Bool :=
  c = ' ' || c = '\t' || c = '\n' || c = '\r'

/-- Characters that a numeral is made of. -/
def isNumeralChar (c : Char) : Bool :=
  c.isDigit || c = '-' || c = '+' || c = '.' || c = 'e' || c = 'E'

/-- The token of a punctuation mark. -/
def punctuation? : Char → Option Token
  | '[' => some openArray
  | ']' => some closeArray
  | '\x7b' => some openObject
  | '\x7d' => some closeObject
  | ',' => some comma
  | ':' => some colon
  | _ => none

/-- The token of a bare word, its letters in reverse. -/
def word? (letters : List Char) : Option Token :=
  match letters.reverse with
  | ['n', 'u', 'l', 'l'] => some null
  | ['t', 'r', 'u', 'e'] => some (bool true)
  | ['f', 'a', 'l', 's', 'e'] => some (bool false)
  | _ => none

/-- The character of an escape with one letter. -/
def escaped? : Char → Option Char
  | '"' => some '"'
  | '\\' => some '\\'
  | '/' => some '/'
  | 'b' => some '\x08'
  | 'f' => some '\x0C'
  | 'n' => some '\n'
  | 'r' => some '\r'
  | 't' => some '\t'
  | _ => none

/-- What a complete code stands for: a character, half of a pair, or nothing. -/
def closeCode (done : List Char) (high : Option Nat) (code : Nat) : Option Scan :=
  let isLow := 0xDC00 ≤ code && code < 0xE000
  let isHigh := 0xD800 ≤ code && code < 0xDC00
  match high with
  | some lead =>
    if isLow then
      some (.text (Char.ofNat (0x10000 + (lead - 0xD800) * 0x400 + (code - 0xDC00)) :: done))
    else none
  | none =>
    if isHigh then some (.partner done code)
    else if isLow then none
    else some (.text (Char.ofNat code :: done))

/-- A character that begins a token or stands between tokens. -/
def begin? (c : Char) : Option (List Token × Scan) :=
  if isSpace c then some ([], .between)
  else match punctuation? c with
    | some token => some ([token], .between)
    | none =>
      if c = '"' then some ([], .text [])
      else if c.isDigit || c = '-' then some ([], .numeral [c])
      else if c.isAlpha then some ([], .word [c])
      else none

/-- The tokens that one more character completes, and what the scanner is then in. -/
def advance? (scan : Scan) (c : Char) : Option (List Token × Scan) :=
  match scan with
  | .between => begin? c
  | .word letters =>
    if c.isAlpha then some ([], .word (c :: letters)) else do
      let token ← word? letters
      let (tokens, next) ← begin? c
      some (token :: tokens, next)
  | .numeral signs =>
    if isNumeralChar c then some ([], .numeral (c :: signs)) else do
      let number ← Number.ofChars? signs.reverse
      let (tokens, next) ← begin? c
      some (.number number :: tokens, next)
  | .text done =>
    if c = '"' then some ([.string (String.ofList done.reverse)], .between)
    else if c = '\\' then some ([], .escape done)
    else if c.toNat < 0x20 then none
    else some ([], .text (c :: done))
  | .escape done =>
    if c = 'u' then some ([], .code done none 4 0)
    else (escaped? c).map fun d => ([], .text (d :: done))
  | .code done high missing value => do
    let digit ← Chars.hexValue? c
    let value := value * 16 + digit
    if missing ≤ 1 then (closeCode done high value).map fun next => ([], next)
    else some ([], .code done high (missing - 1) value)
  | .partner done high => if c = '\\' then some ([], .partnerEscape done high) else none
  | .partnerEscape done high => if c = 'u' then some ([], .code done (some high) 4 0) else none

/-- The tokens that the end of the text completes. -/
def finish? : Scan → Option (List Token)
  | .between => some []
  | .word letters => (word? letters).map fun token => [token]
  | .numeral signs => (Number.ofChars? signs.reverse).map fun number => [.number number]
  | _ => none

/-- Gives the tokens of the characters one by one to a consumer, which may refuse. -/
def feed? {σ : Type} (consume : σ → Token → Option σ) (scan : Scan) (state : σ) :
    List Char → Option σ
  | [] => do
    let tokens ← finish? scan
    tokens.foldlM consume state
  | c :: rest =>
    match advance? scan c with
    | none => none
    | some (tokens, next) =>
      match tokens.foldlM consume state with
      | none => none
      | some state => feed? consume next state rest

end Token

end Wireframe
