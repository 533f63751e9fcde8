import AggregateRules.OrderedMap

/-!
# JSON values

A value keeps the members of an object in the order in which they were written,
because rules that are quoted in a message and the fields of a mapping are
shown in this order. Two values that differ in this order alone count as the
same configuration, see `Json.same`.
-/

namespace AggregateRules

/-- A number is an integer as long as it is written like one and fits into 64
bits. -/
inductive Number where
  | integer (value : Int)
  | real (value : Float)

/-- A JSON value. The members of an object have distinct names wherever one is
read from a text. -/
inductive Json where
  | null
  | bool (value : Bool)
  | number (value : Number)
  | string (value : String)
  | array (items : List Json)
  | object (members : List (String × Json))

/-- Numbers of different kinds are never the same; the two real zeros are. -/
def Number.same : Number → Number → Bool
  | .integer left, .integer right => left == right
  | .real left, .real right => left == right
  | _, _ => false

namespace Json

/-- The member of a name, if the value is an object that has one. -/
def get? (name : String) : Json → Option Json
  | .object members => members.lookup name
  | _ => none

/-- The text of a string value. -/
def string? : Json → Option String
  | .string value => some value
  | _ => none

mutual

/-- Whether two values agree up to the order of the members in each object. -/
def same : Json → Json → Bool
  | .null, .null => true
  | .bool left, .bool right => left == right
  | .number left, .number right => left.same right
  | .string left, .string right => left == right
  | .array left, .array right => sameItems left right
  | .object left, .object right =>
      left.length == right.length && hasMembers left right
  | _, _ => false

/-- Whether two lists of values agree item by item. -/
def sameItems : List Json → List Json → Bool
  | [], [] => true
  | left :: leftRest, right :: rightRest =>
      left.same right && sameItems leftRest rightRest
  | _, _ => false

/-- Whether each of the first members is also one of the second. -/
def hasMembers : List (String × Json) → List (String × Json) → Bool
  | [], _ => true
  | (name, left) :: rest, others =>
      (match others.lookup name with
        | some right => left.same right
        | none => false) && hasMembers rest others

end

end Json

end AggregateRules
