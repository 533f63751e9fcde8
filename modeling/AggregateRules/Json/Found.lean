import AggregateRules.Json.Numeral
import AggregateRules.Json.Quoted
import AggregateRules.Unicode.DefaultIgnorable
import AggregateRules.Unicode.ExtendingMark
import AggregateRules.Unicode.Unprintable

/-!
# What stands where something else is expected

A message about a value of the wrong type names what was found: the type, and
the value itself if it is a scalar. A string is shown so that each of its
characters can be told: one that is hidden is written as its code point.
-/

namespace AggregateRules.Json

/-- The kind of a value, with the value of a scalar. -/
inductive Found where
  | null
  | boolean (value : Bool)
  | number (value : Number)
  | string (value : String)
  | sequence
  | map

def found : Json → Found
  | .null => .null
  | .bool value => .boolean value
  | .number value => .number value
  | .string value => .string value
  | .array _ => .sequence
  | .object _ => .map

/-- Whether a character cannot be told from its looks: it has no shape, it is
a mark on the character before it, or it is not drawn at all. -/
def isHidden (character : Char) : Bool :=
  Unicode.hasRun Unicode.unprintableRuns character ||
    Unicode.hasRun Unicode.extendingMarkRuns character ||
    Unicode.hasRun Unicode.defaultIgnorableRuns character

/-- One character of a string that is shown in a message. -/
def showCharacter (character : Char) : List Char :=
  if character = '\x00' then ['\\', '0']
  else if character = '\t' then ['\\', 't']
  else if character = '\r' then ['\\', 'r']
  else if character = '\n' then ['\\', 'n']
  else if character = '"' then ['\\', '"']
  else if character = '\\' then ['\\', '\\']
  else if character ≠ ' ' ∧ isHidden character then
    '\\' :: 'u' :: '{' :: Nat.toDigits 16 character.toNat ++ ['}']
  else [character]

/-- The description of what was found, as it stands in a message. -/
def Found.describe : Found → String
  | .null => "null"
  | .boolean true => "boolean `true`"
  | .boolean false => "boolean `false`"
  | .number (.integer value) =>
      "integer `" ++ String.ofList (Number.integer value).written ++ "`"
  | .number (.real value) =>
      "floating point `" ++ String.ofList (Number.real value).written ++ "`"
  | .string value =>
      "string \"" ++ String.ofList (value.toList.flatMap showCharacter) ++ "\""
  | .sequence => "sequence"
  | .map => "map"

end AggregateRules.Json
