import AggregateRules.Json.Fault

/-!
# Strings and literals in a text

A reader takes the characters that are still to be read and gives a result and
the characters behind it. This module reads the inside of quoted strings, and
it passes over blanks and literals.
-/

namespace AggregateRules.Json.Reader

/-- The characters that may stand between the parts of a text. -/
def isBlank (character : Char) : Bool :=
  character = ' ' || character = '\t' || character = '\n' || character = '\r'

/-- The text behind its leading blanks. -/
def skipBlank (text : List Char) : List Char :=
  text.dropWhile isBlank

/-- The text behind the rest of a literal whose first character has been read.
-/
def skipLiteral : List Char → List Char → Except TextFault (List Char)
  | [], text => .ok text
  | _ :: _, [] => .error .endInValue
  | expected :: more, character :: text =>
      if character = expected then skipLiteral more text
      else .error .expectedLiteral

/-- The value of a hexadecimal digit in either case. -/
def hexValue? (character : Char) : Option Nat :=
  if '0' ≤ character ∧ character ≤ '9' then
    some (character.toNat - '0'.toNat)
  else if 'a' ≤ character ∧ character ≤ 'f' then
    some (character.toNat - 'a'.toNat + 10)
  else if 'A' ≤ character ∧ character ≤ 'F' then
    some (character.toNat - 'A'.toNat + 10)
  else none

/-- Four hexadecimal digits. A text of fewer than four bytes breaks off before
it can hold them. -/
def codeUnit : List Char → Except TextFault (Nat × List Char)
  | first :: second :: third :: fourth :: rest =>
      match hexValue? first, hexValue? second, hexValue? third,
        hexValue? fourth with
      | some a, some b, some c, some d =>
          .ok (((a * 16 + b) * 16 + c) * 16 + d, rest)
      | _, _, _, _ => .error .invalidEscape
  | short =>
      if (String.ofList short).utf8ByteSize < 4 then .error .endInString
      else .error .invalidEscape

def isLeadingSurrogate (unit : Nat) : Bool :=
  0xd800 ≤ unit && unit ≤ 0xdbff

def isTrailingSurrogate (unit : Nat) : Bool :=
  0xdc00 ≤ unit && unit ≤ 0xdfff

/-- The character that a pair of surrogates stands for. -/
def pairedCharacter (leading trailing : Nat) : Char :=
  Char.ofNat (0x10000 + (leading - 0xd800) * 0x400 + (trailing - 0xdc00))

/-- The character behind `\u`: one code unit, or a pair of surrogates. -/
def unicodeEscape (text : List Char) : Except TextFault (Char × List Char) :=
  match codeUnit text with
  | .error fault => .error fault
  | .ok (unit, rest) =>
      if isTrailingSurrogate unit then .error .unpairedSurrogate
      else if isLeadingSurrogate unit then
        match rest with
        | [] => .error .endInString
        | ['\\'] => .error .endInString
        | '\\' :: 'u' :: more =>
            match codeUnit more with
            | .error fault => .error fault
            | .ok (next, behind) =>
                if isTrailingSurrogate next then
                  .ok (pairedCharacter unit next, behind)
                else .error .unpairedSurrogate
        | _ => .error .missingSurrogate
      else .ok (Char.ofNat unit, rest)

/-- The character that one letter stands for behind a backslash. -/
def shortEscape? (letter : Char) : Option Char :=
  if letter = '"' then some '"'
  else if letter = '\\' then some '\\'
  else if letter = '/' then some '/'
  else if letter = 'b' then some '\x08'
  else if letter = 'f' then some '\x0c'
  else if letter = 'n' then some '\n'
  else if letter = 'r' then some '\r'
  else if letter = 't' then some '\t'
  else none

/-- The character behind a backslash. -/
def escapedCharacter : List Char → Except TextFault (Char × List Char)
  | [] => .error .endInString
  | letter :: rest =>
      match shortEscape? letter with
      | some character => .ok (character, rest)
      | none =>
          if letter = 'u' then unicodeEscape rest else .error .invalidEscape

theorem length_of_codeUnit {text rest : List Char} {unit : Nat}
    (read : codeUnit text = .ok (unit, rest)) : rest.length < text.length := by
  unfold codeUnit at read
  split at read
  · split at read
    · cases read
      simp only [List.length_cons]
      omega
    · cases read
  · split at read <;> cases read

theorem length_of_unicodeEscape {text rest : List Char} {character : Char}
    (read : unicodeEscape text = .ok (character, rest)) :
    rest.length < text.length := by
  unfold unicodeEscape at read
  split at read
  · cases read
  · next unit after first =>
      have firstShorter := length_of_codeUnit first
      split at read
      · cases read
      · split at read
        · split at read
          · cases read
          · cases read
          · next more =>
              split at read
              · cases read
              · next second =>
                  have secondShorter := length_of_codeUnit second
                  split at read
                  · simp only [Except.ok.injEq, Prod.mk.injEq] at read
                    simp only [List.length_cons] at firstShorter
                    rw [← read.2]
                    omega
                  · cases read
          · cases read
        · simp only [Except.ok.injEq, Prod.mk.injEq] at read
          rw [← read.2]
          exact firstShorter

/-- Behind an escaped character less is left to read. -/
theorem length_of_escapedCharacter {text rest : List Char} {character : Char}
    (read : escapedCharacter text = .ok (character, rest)) :
    rest.length < text.length := by
  unfold escapedCharacter at read
  split at read
  · cases read
  · split at read
    · cases read
      simp
    · split at read
      · have shorter := length_of_unicodeEscape read
        simp only [List.length_cons]
        omega
      · cases read

/-- The characters of a string up to its closing quote, and the text behind it.
-/
def stringBody (text : List Char) : Except TextFault (List Char × List Char) :=
  match text with
  | [] => .error .endInString
  | character :: rest =>
      if character = '"' then .ok ([], rest)
      else if character = '\\' then
        match _read : escapedCharacter rest with
        | .error fault => .error fault
        | .ok (escaped, behind) =>
            match stringBody behind with
            | .error fault => .error fault
            | .ok (characters, after) => .ok (escaped :: characters, after)
      else if character.toNat < 0x20 then .error .controlCharacter
      else
        match stringBody rest with
        | .error fault => .error fault
        | .ok (characters, after) => .ok (character :: characters, after)
termination_by text.length
decreasing_by
  · have := length_of_escapedCharacter _read
    simp only [List.length_cons]
    omega
  · simp

end AggregateRules.Json.Reader
