import Wireframe.Chars.Composition
import Wireframe.Chars.Direction
import Wireframe.Chars.Joining
import Wireframe.Chars.Punycode
import Wireframe.Http.DomainTable

/-!
# Domain names

A domain name is labels with dots between them, in any script. The network knows names of plain
characters only, so every other label goes there in Punycode behind `xn--`. Before that the name
is brought into its usual form: small letters, composed characters, none that cannot be seen. A
label that comes in Punycode has to be what a label in its usual form is written as.

A label does not begin with a mark, has invisible joiners only where they change how letters
join, and if any label runs from right to left, the direction of all of them is plain.
-/

namespace Wireframe.DomainName

/-! ## Characters -/

/-- Characters that cannot stand in the host of a request. -/
def isForbidden (c : Char) : Bool :=
  c.toNat ≤ 0x20 || c.toNat = 0x7F || "\"#%/:<>?@[\\]^`\x7b|\x7d".toList.contains c

/-- Whether a label can go to the network as it is. -/
def isPlain (label : List Char) : Bool :=
  label.all Punycode.isPlain

/-- A name in its usual form. -/
def usual? (cs : List Char) : Option (List Char) := do
  let replaced ← cs.mapM DomainTable.replaced?
  let name := Chars.composed replaced.flatten
  if name.any isForbidden then none else some name

/-! ## Labels -/

/-- What stands in front of a label in Punycode. -/
def mark : List Char := "xn--".toList

/-- The most characters of a label in Punycode behind the mark. -/
def longestEncoding : Nat := 2000

/-- The most characters of a label that has others than plain ones. -/
def longestLabel : Nat := 1000

/-- Whether a label is in its usual form and needs Punycode. -/
def isUsual (label : List Char) : Bool :=
  !isPlain label && label.all DomainTable.stays && Chars.composed label = label &&
    !mark.isPrefixOf label

/-- The label in its own script. -/
def unfolded? (label : List Char) : Option (List Char) :=
  if mark.isPrefixOf label then do
    let encoding := label.drop mark.length
    if longestEncoding < encoding.length then none
    let unfolded ← Punycode.decode? encoding
    if isUsual unfolded then some unfolded else none
  else some label

/-- The joiner that asks for a join. -/
def joiner : Char := '\u200D'

/-- The joiner that refuses a join. -/
def nonJoiner : Char := '\u200C'

/-- The class of the marks that take away a vowel. -/
def viramaClass : Nat := 9

/-- Whether joiners stand only where they matter: behind a mark that takes away a vowel, or,
refusing, between letters that would join. What stands before comes last first. -/
def joinsFit (before : List Char) : List Char → Bool
  | [] => true
  | c :: rest =>
    let fits :=
      if c = joiner ∨ c = nonJoiner then
        before.head?.any (fun last => Chars.markClass last = viramaClass) ||
          (c = nonJoiner && Chars.meets Chars.joiningForward before &&
            Chars.meets Chars.joiningBackward rest)
      else true
    fits && joinsFit (c :: before) rest

/-- Whether a label in its own script may be part of a name. -/
def isLabel (label : List Char) : Bool :=
  !label.head?.any Chars.marks.has && joinsFit [] label &&
    (isPlain label || label.length ≤ longestLabel)

/-- A label as the network knows it. -/
def folded (label : List Char) : List Char :=
  if isPlain label then label else mark ++ Punycode.encode label

/-! ## Names -/

/-- The name as the network knows it, none if it is no name. -/
def ofChars? (cs : List Char) : Option String := do
  let name ← usual? cs
  let labels ← (Chars.pieces (· = '.') name).mapM unfolded?
  let isMixed := labels.any Chars.runsLeftward
  if labels.all isLabel && (!isMixed || labels.all Chars.isDirected) then
    some (String.intercalate "." ((labels.map folded).map String.ofList))
  else none

end Wireframe.DomainName
