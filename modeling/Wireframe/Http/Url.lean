import Wireframe.Decimal.Layout
import Wireframe.Http.Host

/-!
# Addresses on the web

An address names a host, the number of a service there, a path and perhaps a query. Reading one
is generous in what browsers are generous in: blanks around it, tabs and line ends in it,
backslashes for slashes, any number of slashes before the host, capitals in the scheme, hosts of
any script and in any notation. The path that comes out has no dot segments, and whatever may not
stand in a path or query is written as percent codes.
-/

namespace Wireframe

/-- An address that plain requests can be sent to. -/
structure Url where
  /-- User name and password before the host. -/
  user : Option (String × String)
  host : Host
  /-- The number of the service, unless it is the usual one. -/
  service : Option Nat
  segments : List String
  query : Option String
deriving DecidableEq

namespace Url

/-! ## Percent codes -/

/-- A byte as a percent code. -/
def percentCode (byte : UInt8) : List Char :=
  let digit (n : Nat) : Char := (Nat.digitChar n).toUpper
  ['%', digit (byte.toNat / 16), digit (byte.toNat % 16)]

/-- A character as the percent codes of its bytes. -/
def percentCodes (c : Char) : List Char :=
  (String.singleton c).toUTF8.toList.flatMap percentCode

/-- Characters written as they are, those of a set as codes. -/
def encode (coded : Char → Bool) (cs : List Char) : List Char :=
  cs.flatMap fun c => if coded c then percentCodes c else [c]

/-- Control characters and everything outside ASCII. -/
def isControl (c : Char) : Bool :=
  c.toNat < 0x20 || 0x7E < c.toNat

/-- Characters coded in a query. -/
def codedInQuery (c : Char) : Bool :=
  isControl c || " \"#<>'".toList.contains c

/-- Characters coded in a path. -/
def codedInPath (c : Char) : Bool :=
  isControl c || " \"#<>?`\x7b\x7d".toList.contains c

/-- The bytes of a text with its percent codes undone. -/
def decodedBytes : List Char → List UInt8
  | '%' :: a :: b :: rest =>
    match Chars.hexValue? a, Chars.hexValue? b with
    | some high, some low => UInt8.ofNat (high * 16 + low) :: decodedBytes rest
    | _, _ => '%'.toNat.toUInt8 :: decodedBytes (a :: b :: rest)
  | c :: rest => (String.singleton c).toUTF8.toList ++ decodedBytes rest
  | [] => []

/-- A text with its percent codes undone, if that is text again. -/
def decoded? (cs : List Char) : Option String :=
  String.fromUTF8? (ByteArray.mk (decodedBytes cs).toArray)

/-! ## Host and service -/

/-- The host, in brackets or with percent codes. -/
def host? (cs : List Char) : Option Host :=
  match cs with
  | '[' :: rest =>
    if rest.getLast? = some ']' then Host.sixteen? rest.dropLast else none
  | _ => (decoded? cs).bind fun text => Host.ofName? text.toList

/-- The length of a host, up to a colon outside brackets. -/
def hostLength (inBrackets : Bool) : List Char → Nat
  | [] => 0
  | c :: rest =>
    if c = ':' ∧ !inBrackets then 0
    else hostLength (c = '[' || (inBrackets && c ≠ ']')) rest + 1

/-- The number behind a colon, none for the usual one. -/
def service? (cs : List Char) : Option (Option Nat) :=
  if cs.any (fun c => !c.isDigit) then none
  else
    let n := Nat.ofDigitChars 10 cs 0
    if 65535 < n then none
    else some (if cs = [] ∨ n = 80 then none else some n)

/-- User name and password of what stands before the last at sign. Neither counts if it is no
text, and a password needs no user name, but a user name that is no text takes the password with
it. -/
def user? (cs : List Char) : Option (String × String) := do
  let name ← decoded? (cs.takeWhile (· ≠ ':'))
  let given := (cs.dropWhile (· ≠ ':')).drop 1
  let password := if given = [] then none else decoded? given
  if name = "" ∧ password = none then none else some (name, password.getD "")

/-! ## Path -/

/-- A segment that stays in its directory. -/
def isHere (segment : List Char) : Bool :=
  [".", "%2e"].contains (String.ofList (segment.map Char.toLower))

/-- A segment that leads to the directory above. -/
def isAbove (segment : List Char) : Bool :=
  ["..", ".%2e", "%2e.", "%2e%2e"].contains (String.ofList (segment.map Char.toLower))

/-- A segment that names a drive. No step leads up from there. -/
def isDrive : List Char → Bool
  | [letter, mark] => letter.isAlpha && (mark = ':' || mark = '|')
  | _ => false

/-- The segments, the last first, above those that were walked. -/
def above : List (List Char) → List (List Char)
  | last :: before => if isDrive last then last :: before else before
  | [] => []

/-- Segments with dots followed, those walked so far in reverse. A dot at the end leaves an
empty segment. -/
def walk (walked : List (List Char)) : List (List Char) → List (List Char)
  | [] => walked.reverse
  | segment :: rest =>
    if isAbove segment then
      walk (if rest = [] then [] :: above walked else above walked) rest
    else if isHere segment then walk (if rest = [] then [] :: walked else walked) rest
    else walk (segment :: walked) rest

/-- Slashes go both ways. -/
def isSlash (c : Char) : Bool :=
  c = '/' || c = '\\'

/-- The segments of a path that starts with a slash or is empty. -/
def segmentsOf (cs : List Char) : List String :=
  (walk [] (Chars.pieces isSlash (cs.drop 1))).map fun segment =>
    String.ofList (encode codedInPath segment)

/-! ## Reading -/

/-- An address without the blanks and line ends that do not count. -/
def cleaned (cs : List Char) : List Char :=
  let isOuter (c : Char) : Bool := c.toNat ≤ 0x20
  let inner := ((cs.dropWhile isOuter).reverse.dropWhile isOuter).reverse
  inner.filter fun c => c ≠ '\t' ∧ c ≠ '\n' ∧ c ≠ '\r'

/-- The scheme of plain requests. -/
def scheme : List Char := "http".toList

/-- The address that a text stands for, none if it is none or of another scheme. -/
def parse? (text : String) : Option Url := do
  let cs := cleaned text.toList
  let named := cs.takeWhile (· ≠ ':')
  if named.map Char.toLower ≠ scheme then none
  let behind := (cs.drop (named.length + 1)).dropWhile isSlash
  let isEnd (c : Char) : Bool := isSlash c || c = '?' || c = '#'
  let authority := behind.takeWhile fun c => !isEnd c
  let rest := (behind.dropWhile fun c => !isEnd c).takeWhile (· ≠ '#')
  let place := (authority.reverse.takeWhile (· ≠ '@')).reverse
  let credentials := (authority.take (authority.length - place.length)).dropLast
  let length := hostLength false place
  let host ← host? (place.take length)
  let service ← service? ((place.drop length).drop 1)
  let query := rest.dropWhile (· ≠ '?')
  some {
    user := user? credentials
    host := host
    service := service
    segments := segmentsOf (rest.takeWhile (· ≠ '?'))
    query :=
      if query = [] then none
      else some (String.ofList (encode codedInQuery (query.drop 1))) }

/-! ## Writing -/

/-- The host, and the number of the service unless it is the usual one. -/
def authority (u : Url) : String :=
  match u.service with
  | none => u.host.text
  | some number => u.host.text ++ ":" ++ String.ofList (Layout.digitChars number)

/-- Path and query. -/
def target (u : Url) : String :=
  "/" ++ String.intercalate "/" u.segments ++
    match u.query with
    | none => ""
    | some query => "?" ++ query

end Url

end Wireframe
