import AggregateRules.Json.Fault

/-!
# Numbers in a text

A number is read in two steps: first its parts, which are digits and signs, and
then its value. A number without fraction and exponent is an integer if it fits
into 64 bits. Any other number is real: its leading digits are taken as one
integer as long as they fit into 64 bits, and this integer is multiplied or
divided by one power of ten.
-/

namespace AggregateRules.Json.Reader

/-- The exponent of a number as it is written. -/
structure WrittenExponent where
  negative : Bool
  digits : List Char

/-- A number as it is written. -/
structure Numeral where
  negative : Bool
  whole : List Char
  fraction : Option (List Char)
  exponent : Option WrittenExponent

/-- The digits that a text starts with, of which there must be one. -/
def someDigits : List Char → Except TextFault (List Char × List Char)
  | [] => .error .endInValue
  | text@(character :: _) =>
      if character.isDigit then
        .ok (text.takeWhile Char.isDigit, text.dropWhile Char.isDigit)
      else .error .invalidNumber

/-- The digits in front of the point: a zero stands alone. -/
def wholeDigits (text : List Char) :
    Except TextFault (List Char × List Char) := do
  let (digits, rest) ← someDigits text
  match digits with
  | '0' :: _ :: _ => .error .invalidNumber
  | _ => .ok (digits, rest)

/-- The digits behind a point, if there is one. -/
def fractionDigits :
    List Char → Except TextFault (Option (List Char) × List Char)
  | '.' :: text => do
      let (digits, rest) ← someDigits text
      .ok (some digits, rest)
  | text => .ok (none, text)

/-- The exponent behind a letter `e` of either case, if there is one. -/
def exponentDigits :
    List Char → Except TextFault (Option WrittenExponent × List Char)
  | [] => .ok (none, [])
  | character :: text =>
      if character = 'e' ∨ character = 'E' then do
        let (negative, unsigned) :=
          match text with
          | '-' :: rest => (true, rest)
          | '+' :: rest => (false, rest)
          | rest => (false, rest)
        let (digits, rest) ← someDigits unsigned
        .ok (some ⟨negative, digits⟩, rest)
      else .ok (none, character :: text)

/-- The parts of the number that a text starts with. -/
def numeral (text : List Char) : Except TextFault (Numeral × List Char) := do
  let (negative, unsigned) :=
    match text with
    | '-' :: rest => (true, rest)
    | rest => (false, rest)
  let (whole, afterWhole) ← wholeDigits unsigned
  let (fraction, afterFraction) ← fractionDigits afterWhole
  let (exponent, rest) ← exponentDigits afterFraction
  .ok (⟨negative, whole, fraction, exponent⟩, rest)

/-- The value of a decimal digit. -/
def digitValue (character : Char) : Nat :=
  character.toNat - '0'.toNat

/-- Appends digits to a number while it stays below `2 ^ 64`. Gives the number,
and how many digits were left out. -/
def appendDigits (significand : Nat) : List Char → Nat × Nat
  | [] => (significand, 0)
  | digit :: rest =>
      let longer := significand * 10 + digitValue digit
      if longer < Nat.pow 2 64 then appendDigits longer rest
      else (significand, rest.length + 1)

/-- The power of ten that is nearest to `10 ^ exponent`. -/
def powerOfTen (exponent : Nat) : Float :=
  OfScientific.ofScientific 1 false exponent

/-- Divides by `10 ^ exponent`, by the largest power of ten again and again if
one does not reach. -/
def divideByTens (value : Float) (exponent : Nat) : Float :=
  if exponent ≤ 308 then value / powerOfTen exponent
  else if value == 0 then value
  else divideByTens (value / powerOfTen 308) (exponent - 308)
termination_by exponent

/-- The nonnegative real number `significand * 10 ^ exponent`, unless it is too
large. -/
def scaled? (significand : Nat) (exponent : Int) : Option Float :=
  let value := Float.ofNat significand
  if exponent < 0 then some (divideByTens value exponent.natAbs)
  else if exponent ≤ 308 then
    let product := value * powerOfTen exponent.natAbs
    if product.isInf then none else some product
  else if significand = 0 then some value
  else none

/-- The exponent that is written, zero if none is. -/
def writtenExponent : Option WrittenExponent → Int
  | none => 0
  | some exponent =>
      let magnitude : Int := Nat.ofDigitChars 10 exponent.digits 0
      if exponent.negative then -magnitude else magnitude

/-- The value of a number that is written as a real number, or too long for an
integer. -/
def realValue (written : Numeral) : Except TextFault Number :=
  let (whole, wholeOmitted) := appendDigits 0 written.whole
  let fraction := written.fraction.getD []
  let (significand, fractionOmitted) := appendDigits whole fraction
  let exponent := (wholeOmitted : Int) - (fraction.length - fractionOmitted) +
    writtenExponent written.exponent
  match scaled? significand exponent with
  | none => .error .numberOutOfRange
  | some value => .ok (.real (if written.negative then -value else value))

/-- The value of a number. A negative zero is real, because no integer keeps
its sign. -/
def numeralValue (written : Numeral) : Except TextFault Number :=
  match written.fraction, written.exponent with
  | none, none =>
      let magnitude := Nat.ofDigitChars 10 written.whole 0
      if ¬ written.negative ∧ magnitude < Nat.pow 2 64 then
        .ok (.integer magnitude)
      else if written.negative ∧ 0 < magnitude ∧
          magnitude ≤ Nat.pow 2 63 then
        .ok (.integer (-magnitude))
      else realValue written
  | _, _ => realValue written

/-- The value of the number that a text starts with. -/
def number (text : List Char) : Except TextFault (Number × List Char) := do
  let (written, rest) ← numeral text
  let value ← numeralValue written
  .ok (value, rest)

end AggregateRules.Json.Reader
