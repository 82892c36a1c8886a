import Wireframe.Http.DomainName

/-!
# Hosts

A host has a name, or it is an address of four or of sixteen bytes. An address of four bytes is
written as one to four numbers, decimal, octal behind a zero or hexadecimal behind `0x`, the last
of which fills the bytes that are left; a name that ends in a number is never a name. An address
of sixteen bytes stands in brackets, as eight groups of hexadecimal digits; two colons stand for
groups of zeros, and the last two groups may be an address of four bytes.
-/

namespace Wireframe

/-- Where a request goes. -/
inductive Host where
  | name (text : String)
  | four (address : Nat)
  | sixteen (groups : List Nat)
deriving DecidableEq

namespace Host

/-! ## Four bytes -/

/-- The digits of a number behind the mark of their base, and the base. -/
def baseOf : List Char → Nat × List Char
  | '0' :: 'x' :: digits => (16, digits)
  | '0' :: 'X' :: digits => (16, digits)
  | ['0'] => (10, ['0'])
  | '0' :: digits => (8, digits)
  | digits => (10, digits)

/-- A number of an address. A mark without digits is zero. -/
def number? (cs : List Char) : Option Nat :=
  if cs = [] then none
  else
    let (base, digits) := baseOf cs
    digits.foldlM (fun n c => do
      let d ← Chars.hexValue? c
      if d < base then some (n * base + d) else none) 0

/-- The parts between dots, a dot at the end left out. -/
def parts (cs : List Char) : List (List Char) :=
  let all := Chars.pieces (· = '.') cs
  if all.getLast? = some [] ∧ 1 < all.length then all.dropLast else all

/-- Whether a text is an address of four bytes, right or wrong. -/
def endsInNumber (cs : List Char) : Bool :=
  (parts cs).getLast?.any fun last =>
    (last ≠ [] && last.all Char.isDigit) || (number? last).isSome

/-- An address of four bytes. -/
def four? (cs : List Char) : Option Host := do
  let numbers ← (parts cs).mapM number?
  let last ← numbers.getLast?
  let first := numbers.dropLast
  if 3 < first.length ∨ first.any (255 < ·) ∨ Nat.pow 256 (4 - first.length) ≤ last then none
  else
    let high := first.foldl (fun n byte => n * 256 + byte) 0
    some (.four (high * Nat.pow 256 (4 - first.length) + last))

/-- The bytes of an address with dots between them. -/
def fourText (address : Nat) : String :=
  let bytes := [address / 16777216, address / 65536 % 256, address / 256 % 256, address % 256]
  String.intercalate "." (bytes.map fun byte => String.ofList (Nat.toDigits 10 byte))

/-! ## Sixteen bytes -/

/-- A group of up to four digits. -/
def group? (cs : List Char) : Option (List Nat) :=
  if cs = [] ∨ 4 < cs.length then none else (Chars.hexNumber? cs).map fun n => [n]

/-- A byte without needless zeros. -/
def byte? (cs : List Char) : Option Nat :=
  if cs = [] ∨ !cs.all Char.isDigit ∨ (cs.head? = some '0' ∧ cs ≠ ['0']) then none
  else
    let n := Nat.ofDigitChars 10 cs 0
    if n < 256 then some n else none

/-- Two groups that are written as four bytes. -/
def dotted? (cs : List Char) : Option (List Nat) := do
  match ← (Chars.pieces (· = '.') cs).mapM byte? with
  | [a, b, c, d] => some [a * 256 + b, c * 256 + d]
  | _ => none

/-- Groups with colons between them. Only at the end of an address may four bytes stand. -/
def groups? (isEnd : Bool) (cs : List Char) : Option (List Nat) :=
  if cs = [] then some []
  else do
    let written := Chars.pieces (· = ':') cs
    let before ← written.dropLast.mapM group?
    let last := written.getLastD []
    let final ← if isEnd ∧ last.contains '.' then dotted? last else group? last
    some (before.flatten ++ final)

/-- What stands before and behind the first two colons. -/
def splitAtGap (before : List Char) : List Char → Option (List Char × List Char)
  | ':' :: ':' :: rest => some (before.reverse, rest)
  | c :: rest => splitAtGap (c :: before) rest
  | [] => none

/-- An address of sixteen bytes. -/
def sixteen? (cs : List Char) : Option Host := do
  match splitAtGap [] cs with
  | none =>
    let groups ← groups? true cs
    if groups.length = 8 then some (.sixteen groups) else none
  | some (before, behind) =>
    let high ← groups? false before
    let low ← groups? true behind
    let given := high.length + low.length
    if given < 8 then some (.sixteen (high ++ List.replicate (8 - given) 0 ++ low)) else none

/-- How many zeros there are at the front. -/
def zeros (groups : List Nat) : Nat :=
  (groups.takeWhile (· = 0)).length

/-- The first place with the most zeros. -/
def longestGap (groups : List Nat) : Nat :=
  (List.range groups.length).foldl (fun best place =>
    if zeros (groups.drop best) < zeros (groups.drop place) then place else best) 0

/-- Groups in small digits with colons between them. -/
def groupsText (groups : List Nat) : String :=
  String.intercalate ":" (groups.map fun group => String.ofList (Nat.toDigits 16 group))

/-- An address in its shortest form. A single group of zeros is written out. -/
def sixteenText (groups : List Nat) : String :=
  let place := longestGap groups
  let gap := zeros (groups.drop place)
  if gap < 2 then groupsText groups
  else groupsText (groups.take place) ++ "::" ++ groupsText (groups.drop (place + gap))

/-! ## All hosts -/

/-- A host whose percent codes are undone. -/
def ofName? (cs : List Char) : Option Host := do
  let name ← DomainName.ofChars? cs
  if name = "" then none
  else if endsInNumber name.toList then four? name.toList
  else some (.name name)

/-- The text of a host in an address. -/
def text : Host → String
  | name text => text
  | four address => fourText address
  | sixteen groups => "[" ++ sixteenText groups ++ "]"

end Host

end Wireframe
