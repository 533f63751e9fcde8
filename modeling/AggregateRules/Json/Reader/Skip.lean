import AggregateRules.Json.Reader.Value

/-!
# Passing over a value

A record may hold members that nobody asks for. Their values are passed over
without being built: they may be nested to any depth, their numbers may have
any size, and their strings need not pair their surrogates. What is open is
kept on a stack.
-/

namespace AggregateRules.Json.Reader

/-- The text behind an escape, read behind its backslash. -/
def skipEscape : List Char → Except TextFault (List Char)
  | [] => .error .endInString
  | letter :: rest =>
      if (shortEscape? letter).isSome then .ok rest
      else if letter = 'u' then (codeUnit rest).map Prod.snd
      else .error .invalidEscape

theorem length_of_skipEscape {text rest : List Char}
    (read : skipEscape text = .ok rest) :
    rest.length < text.length := by
  unfold skipEscape at read
  split at read
  · cases read
  · next letter behind =>
      split at read
      · cases read
        simp
      · split at read
        · cases unit : codeUnit behind with
          | error fault =>
              rw [unit] at read
              cases read
          | ok result =>
              rw [unit] at read
              cases read
              have shorter : result.2.length < behind.length :=
                length_of_codeUnit unit
              simp only [List.length_cons]
              omega
        · cases read

/-- The text behind the closing quote of a string. -/
def skipString (text : List Char) : Except TextFault (List Char) :=
  match text with
  | [] => .error .endInString
  | character :: rest =>
      if character = '"' then .ok rest
      else if character = '\\' then
        match _read : skipEscape rest with
        | .error fault => .error fault
        | .ok behind => skipString behind
      else if character.toNat < 0x20 then .error .controlCharacter
      else skipString rest
termination_by text.length
decreasing_by
  · have := length_of_skipEscape _read
    simp only [List.length_cons]
    omega
  · simp

/-- The text behind a number. A number that breaks off is as wrong as any other
wrong one. -/
def skipNumber (text : List Char) : Except TextFault (List Char) :=
  match numeral text with
  | .ok (_, rest) => .ok rest
  | .error _ => .error .invalidNumber

/-- The text behind a value without parts. -/
def skipScalar (first : Char) (rest : List Char) :
    Except TextFault (List Char) :=
  if first = 'n' then skipLiteral ['u', 'l', 'l'] rest
  else if first = 't' then skipLiteral ['r', 'u', 'e'] rest
  else if first = 'f' then skipLiteral ['a', 'l', 's', 'e'] rest
  else if first = '"' then skipString rest
  else if first = '-' ∨ first.isDigit then skipNumber (first :: rest)
  else .error .expectedValue

/-- What a bracket has opened. -/
inductive Enclosure where
  | list
  | object
  deriving DecidableEq

namespace Enclosure

def closing : Enclosure → Char
  | .list => ']'
  | .object => '}'

/-- The fault of a text that ends within it. -/
def broken : Enclosure → TextFault
  | .list => .endInList
  | .object => .endInObject

/-- The fault of a text that goes on with neither a comma nor the closing
bracket. -/
def uncontinued : Enclosure → TextFault
  | .list => .expectedListComma
  | .object => .expectedObjectComma

/-- The text in front of the next value: in an object, a name and a colon come
first. -/
def skipName (enclosure : Enclosure) (text : List Char) :
    Except TextFault (List Char) :=
  match enclosure with
  | .list => .ok text
  | .object =>
      match skipBlank text with
      | [] => .error .endInObject
      | '"' :: name => do
          let behind ← skipString name
          skipColon behind
      | _ => .error .nameIsNoString

end Enclosure

/-- Where the passage over a value stands. -/
inductive Stage where
  | value
  | opened
  | behindValue

/-- Passes over what is left of a value within the given enclosures, the
innermost first. Each of the steps reads a character or is followed by one that
does. -/
def skipWithin :
    Nat → List Enclosure → Stage → List Char → Except TextFault (List Char)
  | 0, _, _, _ => .error .endInValue
  | steps + 1, enclosing, .value, text =>
      match skipBlank text with
      | [] => .error .endInValue
      | '[' :: rest => skipWithin steps (.list :: enclosing) .opened rest
      | '{' :: rest => skipWithin steps (.object :: enclosing) .opened rest
      | first :: rest => do
          let behind ← skipScalar first rest
          skipWithin steps enclosing .behindValue behind
  | _ + 1, [], _, text => .ok text
  | steps + 1, inner :: outer, .opened, text =>
      match skipBlank text with
      | [] => .error inner.broken
      | first :: rest =>
          if first = inner.closing then skipWithin steps outer .behindValue rest
          else do
            let next ← inner.skipName (first :: rest)
            skipWithin steps (inner :: outer) .value next
  | steps + 1, inner :: outer, .behindValue, text =>
      match skipBlank text with
      | [] => .error inner.broken
      | first :: rest =>
          if first = inner.closing then skipWithin steps outer .behindValue rest
          else if first = ',' then do
            let next ← inner.skipName rest
            skipWithin steps (inner :: outer) .value next
          else .error inner.uncontinued

/-- The text behind the value that it starts with. -/
def skipValue (text : List Char) : Except TextFault (List Char) :=
  skipWithin (2 * text.length + 2) [] .value text

end AggregateRules.Json.Reader
