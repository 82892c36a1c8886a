import Wireframe.Http.Url

/-!
# Requests and responses

A request carries JSON to an address and may name a key. Blanks at the end of a header do not
count, and a header cannot hold control characters. Of a response the status and the text
count; a mark of byte order in front of the text is no part of it. An exchange may end without
any response.
-/

namespace Wireframe

/-- What goes to a host. -/
structure HttpRequest where
  /-- The request line without line end. -/
  line : String
  host : String
  contentType : String
  authorization : Option String
  body : String

/-- What comes back. -/
structure HttpResponse where
  status : Nat
  body : String

namespace HttpRequest

/-- The sixty-four digits of encoded credentials. -/
def base64Digits : List Char :=
  "ABCDEFGHIJKLMNOPQRSTUVWXYZabcdefghijklmnopqrstuvwxyz0123456789+/".toList

/-- Three bytes in four digits, the last group filled up with equal signs. -/
def base64 : List UInt8 → List Char
  | [] => []
  | [a] => digits (a.toNat * 65536) 2 ++ ['=', '=']
  | [a, b] => digits (a.toNat * 65536 + b.toNat * 256) 3 ++ ['=']
  | a :: b :: c :: rest =>
    digits (a.toNat * 65536 + b.toNat * 256 + c.toNat) 4 ++ base64 rest
where
  /-- The first digits of a number of twenty-four bits. -/
  digits (n count : Nat) : List Char :=
    ([n / 262144, n / 4096 % 64, n / 64 % 64, n % 64].take count).map fun d =>
      base64Digits.getD d 'A'

/-- Whether a header can hold the character. -/
def fitsHeader (c : Char) : Bool :=
  c = '\t' || (0x20 ≤ c.toNat && c.toNat ≠ 0x7F)

/-- The value of a header as it arrives, none if no header can hold it. -/
def headerValue? (value : String) : Option String :=
  if value.toList.all fitsHeader then
    some (String.ofList
      (value.toList.reverse.dropWhile fun c => c = ' ' || c = '\t').reverse)
  else none

/-- The header that tells the bearer of a key. -/
def bearer (key : String) : String :=
  "Bearer " ++ key

/-- The header that tells a user with a password. -/
def basic (name password : String) : String :=
  "Basic " ++ String.ofList (base64 (name ++ ":" ++ password).toUTF8.toList)

/-- The request that posts JSON to an address, none if the address is none or the key fits no
header. A user of the address goes before the bearer of the key. -/
def post? (address : String) (key : Option String) (body : String) : Option HttpRequest := do
  let url ← Url.parse? address
  let bearers ← (key.toList.map bearer).mapM headerValue?
  some {
    line := "POST " ++ url.target ++ " HTTP/1.1"
    host := url.authority
    contentType := "application/json"
    authorization := match url.user with
      | some (name, password) => some (basic name password)
      | none => bearers.head?
    body := body }

end HttpRequest

namespace HttpResponse

/-- Whether the status says that the request was carried out. -/
def isSuccess (r : HttpResponse) : Bool :=
  200 ≤ r.status && r.status < 300

/-- Whether the response ends an exchange. A status has three digits, and what begins with a one
only announces another response, except that 101 leaves the protocol. -/
def isFinal (r : HttpResponse) : Bool :=
  r.status = 101 || (200 ≤ r.status && r.status ≤ 999)

/-- The text of a response. No content comes with 101, 204 and 304. -/
def text (r : HttpResponse) : String :=
  if r.status = 101 ∨ r.status = 204 ∨ r.status = 304 then ""
  else match r.body.toList with
    | '\uFEFF' :: rest => String.ofList rest
    | _ => r.body

end HttpResponse

end Wireframe
