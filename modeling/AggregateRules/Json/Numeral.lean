import AggregateRules.Decimal.Shortest
import AggregateRules.Json.Value

/-!
# Written numbers

An integer is written in decimal. A real number is written with the fewest
digits that read back, and with a point or an exponent, so that it never reads
back as an integer.
-/

namespace AggregateRules

/-- The digits of a positive decimal with a point between them, or with zeros
around them where the point lies outside. -/
def Decimal.positional (decimal : Decimal) : List Char :=
  let digits := Nat.toDigits 10 decimal.significand
  let whole := (digits.length : Int) + decimal.exponent
  if 0 ≤ decimal.exponent then
    digits ++ List.replicate decimal.exponent.toNat '0' ++ ['.', '0']
  else if 0 < whole then
    digits.take whole.toNat ++ '.' :: digits.drop whole.toNat
  else '0' :: '.' :: List.replicate (-whole).toNat '0' ++ digits

/-- The first digit of a positive decimal, the others behind a point, and the
exponent with its sign. -/
def Decimal.scientific (decimal : Decimal) : List Char :=
  let digits := Nat.toDigits 10 decimal.significand
  let exponent := (digits.length : Int) - 1 + decimal.exponent
  let fraction := digits.drop 1
  digits.take 1 ++ (if fraction.isEmpty then [] else '.' :: fraction) ++
    'e' :: (if exponent < 0 then '-' else '+') ::
      Nat.toDigits 10 exponent.natAbs

/-- A positive decimal is written without an exponent from a hundred-thousandth
on up to ten to the sixteenth. -/
def Decimal.written (decimal : Decimal) : List Char :=
  let digits := Nat.toDigits 10 decimal.significand
  let exponent := (digits.length : Int) - 1 + decimal.exponent
  if -5 ≤ exponent ∧ exponent < 16 then decimal.positional
  else decimal.scientific

namespace Number

/-- A finite real number; zero keeps its sign. -/
def writtenReal (value : Float) : List Char :=
  let bits := value.toBits.toNat
  let magnitude := bits % Nat.pow 2 63
  let sign := if bits = magnitude then [] else ['-']
  if magnitude = 0 then sign ++ ['0', '.', '0']
  else sign ++ (Decimal.Magnitude.ofBits magnitude).shortest.written

def written : Number → List Char
  | .integer (.ofNat value) => Nat.toDigits 10 value
  | .integer (.negSucc value) => '-' :: Nat.toDigits 10 (value + 1)
  | .real value => writtenReal value

end Number

end AggregateRules
