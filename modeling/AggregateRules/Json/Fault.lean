import AggregateRules.Json.Found

/-!
# Faults of a JSON document

A text can fail to be JSON at all, and a value can fail to have the shape that
is asked for. Each fault is one cause. Its wording is given by `Fault.message`,
and its category tells whether the text broke off, whether it broke the rules
of the format, or whether it says something unfit.
-/

namespace AggregateRules.Json

/-- Why a text is not JSON. The first four are texts that end too early. -/
inductive TextFault where
  | endInValue
  | endInList
  | endInObject
  | endInString
  | expectedValue
  | expectedLiteral
  | invalidNumber
  | numberOutOfRange
  | expectedListComma
  | expectedObjectComma
  | expectedColon
  | nameIsNoString
  | trailingComma
  | trailingCharacters
  | invalidEscape
  | unpairedSurrogate
  | missingSurrogate
  | controlCharacter
  | nestedTooDeep
  deriving DecidableEq

/-- Why a value does not have the shape that is asked for. -/
inductive ShapeFault where
  | wrongType (found : Found) (expected : String)
  | notOneMember
  | tooShort (length : Nat) (record : String) (fields : Nat)
  | tooLong (length : Nat)
  | missingField (name : String)
  | duplicateField (name : String)
  | unknownVariant (name : String) (variants : List String)

/-- Why a document cannot be read. -/
inductive Fault where
  | text (fault : TextFault)
  | shape (fault : ShapeFault)

/-- The three kinds of faults that a caller can tell apart. -/
inductive FaultCategory where
  | brokenOff
  | malformed
  | unfit
  deriving DecidableEq

def TextFault.category : TextFault → FaultCategory
  | .endInValue | .endInList | .endInObject | .endInString => .brokenOff
  | _ => .malformed

def TextFault.message : TextFault → String
  | .endInValue => "EOF while parsing a value"
  | .endInList => "EOF while parsing a list"
  | .endInObject => "EOF while parsing an object"
  | .endInString => "EOF while parsing a string"
  | .expectedValue => "expected value"
  | .expectedLiteral => "expected ident"
  | .invalidNumber => "invalid number"
  | .numberOutOfRange => "number out of range"
  | .expectedListComma => "expected `,` or `]`"
  | .expectedObjectComma => "expected `,` or `\x7d`"
  | .expectedColon => "expected `:`"
  | .nameIsNoString => "key must be a string"
  | .trailingComma => "trailing comma"
  | .trailingCharacters => "trailing characters"
  | .invalidEscape => "invalid escape"
  | .unpairedSurrogate => "lone leading surrogate in hex escape"
  | .missingSurrogate => "unexpected end of hex escape"
  | .controlCharacter =>
      "control character (\\u0000-\\u001F) found while parsing a string"
  | .nestedTooDeep => "recursion limit exceeded"

/-- A name in backticks. -/
def inBackticks (name : String) : String :=
  "`" ++ name ++ "`"

/-- The variants that a message offers instead of an unknown one. -/
def offered : List String → String
  | [only] => "expected " ++ inBackticks only
  | several =>
      "expected one of " ++ String.intercalate ", " (several.map inBackticks)

def ShapeFault.message : ShapeFault → String
  | .wrongType found expected =>
      "invalid type: " ++ found.describe ++ ", expected " ++ expected
  | .notOneMember => "invalid value: map, expected map with a single key"
  | .tooShort length record fields =>
      "invalid length " ++ toString length ++ ", expected struct " ++ record ++
        " with " ++ toString fields ++ " elements"
  | .tooLong length =>
      "invalid length " ++ toString length ++
        ", expected fewer elements in array"
  | .missingField name => "missing field " ++ inBackticks name
  | .duplicateField name => "duplicate field " ++ inBackticks name
  | .unknownVariant name variants =>
      "unknown variant " ++ inBackticks name ++ ", " ++ offered variants

namespace Fault

def category : Fault → FaultCategory
  | .text fault => fault.category
  | .shape _ => .unfit

def message : Fault → String
  | .text fault => fault.message
  | .shape fault => fault.message

end Fault

end AggregateRules.Json
