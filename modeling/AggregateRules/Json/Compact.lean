import AggregateRules.Json.Numeral
import AggregateRules.Json.Quoted

/-!
# Compact texts

The text of a value without any space between its parts, the members of an
object in their order.
-/

namespace AggregateRules.Json

mutual

/-- The characters of the compact text of a value. -/
def compactText : Json → List Char
  | .null => ['n', 'u', 'l', 'l']
  | .bool true => ['t', 'r', 'u', 'e']
  | .bool false => ['f', 'a', 'l', 's', 'e']
  | .number value => value.written
  | .string value => quote value
  | .array [] => ['[', ']']
  | .array (first :: rest) => '[' :: compactText first ++ compactItems rest
  | .object [] => ['{', '}']
  | .object ((name, value) :: rest) =>
      '{' :: quote name ++ ':' :: compactText value ++ compactMembers rest

/-- Further items, each behind a comma, and the closing bracket. -/
def compactItems : List Json → List Char
  | [] => [']']
  | item :: rest => ',' :: compactText item ++ compactItems rest

/-- Further members, each behind a comma, and the closing brace. -/
def compactMembers : List (String × Json) → List Char
  | [] => ['}']
  | (name, value) :: rest =>
      ',' :: quote name ++ ':' :: compactText value ++ compactMembers rest

end

/-- The compact text of a value. -/
def compact (value : Json) : String :=
  String.ofList value.compactText

end AggregateRules.Json
