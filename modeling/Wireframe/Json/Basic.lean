import Wireframe.Decimal.Layout

/-!
# JSON values

Values keep what their text showed: members in order, and integers apart from doubles. A member
is looked up by the first of its name. `Json.settled` gives a value in which no name occurs
twice in one object: a repeated name keeps its first place and its last value.
-/

namespace Wireframe

/-- A number is an integer where its text was one that fits a 64-bit word, else a double. -/
inductive Number where
  | integer (value : Int)
  | double (value : Double)
deriving DecidableEq

/-- A JSON value. -/
inductive Json where
  | null
  | bool (value : Bool)
  | number (value : Number)
  | string (value : String)
  | array (items : List Json)
  | object (members : List (String × Json))
deriving Inhabited

/-- The six types of JSON value. -/
inductive JsonType where
  | null
  | boolean
  | number
  | string
  | array
  | object
deriving DecidableEq

/-- The members of an object in source order. -/
abbrev Members := List (String × Json)

namespace JsonType

/-- The name of a type. -/
def name : JsonType → String
  | null => "null"
  | boolean => "boolean"
  | number => "number"
  | string => "string"
  | array => "array"
  | object => "object"

end JsonType

namespace Number

/-- The nearest double. -/
def toDouble : Number → Double
  | integer value => .ofInt value
  | double value => value

/-- The word that the number is, if it was written as one. -/
def toWord? : Number → Option UInt64
  | integer value =>
    if 0 ≤ value ∧ value < pow2 64 then some (UInt64.ofNat value.toNat) else none
  | double _ => none

end Number

namespace Members

/-- The value of the first member of that name. -/
def get? (members : Members) (name : String) : Option Json :=
  List.lookup name members

/-- The value of a member that is there and not null. -/
def present? (members : Members) (name : String) : Option Json :=
  match get? members name with
  | some .null => none
  | other => other

/-- A new value for that name, at its place if it has one, else at the end. -/
def put : Members → String → Json → Members
  | [], name, value => [(name, value)]
  | (other, old) :: rest, name, value =>
    if other = name then (other, value) :: rest else (other, old) :: put rest name value

/-- The members without those of that name. -/
def without (members : Members) (name : String) : Members :=
  members.filter fun m => m.1 ≠ name

end Members

namespace Json

/-- A whole number. -/
def ofNat (n : Nat) : Json :=
  .number (.integer n)

/-- The value of a member, none for values other than objects. -/
def get? : Json → String → Option Json
  | .object members, name => Members.get? members name
  | _, _ => none

/-- The text of a string value. -/
def asString? : Json → Option String
  | .string value => some value
  | _ => none

/-- The type of a value. -/
def type : Json → JsonType
  | .null => .null
  | .bool _ => .boolean
  | .number _ => .number
  | .string _ => .string
  | .array _ => .array
  | .object _ => .object

mutual

/-- The value with every repeated member settled, at all depths. -/
def settled : Json → Json
  | .array items => .array (settledItems items)
  | .object members => .object (settledMembers [] members)
  | .null => .null
  | .bool value => .bool value
  | .number value => .number value
  | .string value => .string value

/-- Items settled one by one. -/
def settledItems : List Json → List Json
  | [] => []
  | item :: rest => settled item :: settledItems rest

/-- Members put one after the other behind those already settled. -/
def settledMembers (done : Members) : Members → Members
  | [] => done
  | (name, value) :: rest => settledMembers (done.put name (settled value)) rest

end

mutual

/-- How many arrays and objects are nested in one another, a scalar having none. -/
def nesting : Json → Nat
  | .array items => nestingItems items + 1
  | .object members => nestingMembers members + 1
  | _ => 0

/-- The deepest nesting of the items. -/
def nestingItems : List Json → Nat
  | [] => 0
  | item :: rest => max (nesting item) (nestingItems rest)

/-- The deepest nesting of the members. -/
def nestingMembers : Members → Nat
  | [] => 0
  | (_, value) :: rest => max (nesting value) (nestingMembers rest)

end

end Json

end Wireframe
