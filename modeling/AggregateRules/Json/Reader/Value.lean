import AggregateRules.Json.Reader.Text
import AggregateRules.Json.Reader.Numeral

/-!
# Values in a text

The reader of a value is bounded in one way: arrays and objects are nested at
most as deep as its first argument says. Lists and members are read by loops
that are told how one item is read, so that records can be read with them as
well. Each turn of a loop reads at least one character, and so the number of
characters bounds the number of turns.
-/

namespace AggregateRules.Json.Reader

/-- Reading gives a result and the text behind it, or a fault. -/
abbrev Step (α : Type) := List Char → Except Fault (α × List Char)

/-- A step that only looks at the form of the text. -/
def textStep : Except TextFault α → Except Fault α
  | .ok result => .ok result
  | .error fault => .error (.text fault)

/-- A value without parts that starts with a certain character. -/
def scalar (first : Char) (rest : List Char) :
    Except TextFault (Json × List Char) :=
  if first = 'n' then
    (skipLiteral ['u', 'l', 'l'] rest).map fun behind => (.null, behind)
  else if first = 't' then
    (skipLiteral ['r', 'u', 'e'] rest).map fun behind => (.bool true, behind)
  else if first = 'f' then
    (skipLiteral ['a', 'l', 's', 'e'] rest).map fun behind =>
      (.bool false, behind)
  else if first = '"' then
    (stringBody rest).map fun (characters, behind) =>
      (.string (String.ofList characters), behind)
  else if first = '-' ∨ first.isDigit then
    (number (first :: rest)).map fun (value, behind) => (.number value, behind)
  else .error .expectedValue

/-- The items of an array behind its first one. -/
def furtherItems (item : Step α) :
    Nat → List Char → Except Fault (List α × List Char)
  | 0, _ => .error (.text .endInList)
  | turns + 1, text =>
      match skipBlank text with
      | [] => .error (.text .endInList)
      | ']' :: rest => .ok ([], rest)
      | ',' :: rest =>
          match skipBlank rest with
          | [] => .error (.text .endInValue)
          | ']' :: _ => .error (.text .trailingComma)
          | next => do
              let (value, behind) ← item next
              let (values, after) ← furtherItems item turns behind
              .ok (value :: values, after)
      | _ => .error (.text .expectedListComma)

/-- The items of an array, read behind its opening bracket. -/
def items (item : Step α) (text : List Char) :
    Except Fault (List α × List Char) :=
  match skipBlank text with
  | [] => .error (.text .endInList)
  | ']' :: rest => .ok ([], rest)
  | next => do
      let (value, behind) ← item next
      let (values, after) ← furtherItems item text.length behind
      .ok (value :: values, after)

/-- The text behind the colon that follows a name. -/
def skipColon (text : List Char) : Except TextFault (List Char) :=
  match skipBlank text with
  | [] => .error .endInObject
  | ':' :: rest => .ok rest
  | _ => .error .expectedColon

/-- Reads one member of an object, whose name has been read, into what is known
of the object. -/
abbrev MemberReader (σ : Type) := σ → String → Step σ

/-- The name of a member and the member itself, read behind the opening quote
of the name. -/
def namedMember (member : MemberReader σ) (state : σ) (text : List Char) :
    Except Fault (σ × List Char) := do
  let (name, behind) ← textStep (stringBody text)
  member state (String.ofList name) behind

/-- The members of an object behind its first one. -/
def furtherMembers (member : MemberReader σ) :
    Nat → σ → List Char → Except Fault (σ × List Char)
  | 0, _, _ => .error (.text .endInObject)
  | turns + 1, state, text =>
      match skipBlank text with
      | [] => .error (.text .endInObject)
      | '}' :: rest => .ok (state, rest)
      | ',' :: rest =>
          match skipBlank rest with
          | [] => .error (.text .endInValue)
          | '}' :: _ => .error (.text .trailingComma)
          | '"' :: name => do
              let (extended, behind) ← namedMember member state name
              furtherMembers member turns extended behind
          | _ => .error (.text .nameIsNoString)
      | _ => .error (.text .expectedObjectComma)

/-- The members of an object, read behind its opening brace. -/
def members (member : MemberReader σ) (state : σ) (text : List Char) :
    Except Fault (σ × List Char) :=
  match skipBlank text with
  | [] => .error (.text .endInObject)
  | '}' :: rest => .ok (state, rest)
  | '"' :: name => do
      let (extended, behind) ← namedMember member state name
      furtherMembers member text.length extended behind
  | _ => .error (.text .nameIsNoString)

/-- Reads a member of a plain object: a name that comes again keeps its place
and takes the new value. -/
def plainMember (value : Step Json) : MemberReader (List (String × Json)) :=
  fun held name text => do
    let rest ← textStep (skipColon text)
    let (member, behind) ← value rest
    .ok (putEntry name member held, behind)

/-- The value that a text starts with, with at most `depth` arrays and objects
around each other. -/
def value (depth : Nat) (text : List Char) : Except Fault (Json × List Char) :=
  match skipBlank text with
  | [] => .error (.text .endInValue)
  | '[' :: rest =>
      match depth with
      | 0 => .error (.text .nestedTooDeep)
      | inner + 1 => do
          let (values, behind) ← items (value inner) rest
          .ok (.array values, behind)
  | '{' :: rest =>
      match depth with
      | 0 => .error (.text .nestedTooDeep)
      | inner + 1 => do
          let (held, behind) ← members (plainMember (value inner)) [] rest
          .ok (.object held, behind)
  | first :: rest => textStep (scalar first rest)

/-- Accepts a result behind which only blanks are left. -/
def toEnd (result : Except Fault (α × List Char)) : Except Fault α :=
  match result with
  | .error fault => .error fault
  | .ok (found, rest) =>
      match skipBlank rest with
      | [] => .ok found
      | _ => .error (.text .trailingCharacters)

end AggregateRules.Json.Reader
