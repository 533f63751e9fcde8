import AggregateRules.Json.Reader.Skip
import AggregateRules.Record.Shape

/-!
# Records from texts

A record is read directly from its text, so that a fault is reported where it
stands: a name that comes a second time before its value is looked at, and a
value of the wrong type before anything behind it. Members of unknown names are
passed over.
-/

namespace AggregateRules

open Json (Fault Found)
open Json.Reader

/-- An array or object inside so many others is too deep in a text. -/
def Json.depthLimit : Nat := 127

/-- The fault of a text that starts with something else than what is expected.
A scalar is read first, because it may be at fault itself. -/
def wrongTypeAt (expected : String) (first : Char) (rest : List Char) : Fault :=
  if first = '[' then .shape (.wrongType .sequence expected)
  else if first = '{' then .shape (.wrongType .map expected)
  else
    match scalar first rest with
    | .error fault => .text fault
    | .ok (value, _) => .shape (.wrongType value.found expected)

/-- A step that only looks at the type of what has been read. -/
def shapeStep : Except Json.ShapeFault α → Except Fault α
  | .ok result => .ok result
  | .error fault => .error (.shape fault)

/-- The rest of a string, read behind its opening quote. -/
def stringBehindQuote (text : List Char) : Except Fault (String × List Char) :=
  (textStep (stringBody text)).map fun (characters, behind) =>
    (String.ofList characters, behind)

def textOfText (text : List Char) : Except Fault (String × List Char) :=
  match skipBlank text with
  | [] => .error (.text .endInValue)
  | '"' :: rest => stringBehindQuote rest
  | first :: rest => .error (wrongTypeAt "a string" first rest)

/-- The name of a variant, read behind the opening brace of its object. Unlike
a record, the object cannot be empty. -/
def variantName (text : List Char) : Except Fault (String × List Char) :=
  match skipBlank text with
  | [] => .error (.text .endInObject)
  | '"' :: rest => stringBehindQuote rest
  | '}' :: _ => .error (.text .expectedValue)
  | _ => .error (.text .nameIsNoString)

def nullContent (text : List Char) : Except Fault (List Char) :=
  match skipBlank text with
  | [] => .error (.text .endInValue)
  | 'n' :: rest => textStep (skipLiteral ['u', 'l', 'l'] rest)
  | first :: rest => .error (wrongTypeAt "unit" first rest)

/-- A variant, either as its name or as an object with its name and null. -/
def Variants.ofText (variants : Variants α) (depth : Nat) (text : List Char) :
    Except Fault (α × List Char) :=
  match skipBlank text with
  | [] => .error (.text .endInValue)
  | '"' :: rest => do
      let (name, behind) ← stringBehindQuote rest
      let value ← shapeStep (variants.named name)
      .ok (value, behind)
  | '{' :: rest =>
      match depth with
      | 0 => .error (.text .nestedTooDeep)
      | _ + 1 => do
          let (name, behindName) ← variantName rest
          let value ← shapeStep (variants.named name)
          let content ← textStep (skipColon behindName)
          let behind ← nullContent content
          match skipBlank behind with
          | [] => .error (.text .endInObject)
          | '}' :: after => .ok (value, after)
          | _ => .error (.text .expectedValue)
  | _ => .error (.text .expectedValue)

def FieldShape.ofText :
    (shape : FieldShape) → (depth : Nat) → List Char →
      Except Fault (shape.Carrier × List Char)
  | .text, _, input => textOfText input
  | .nodeKind, depth, input => NodeKind.variants.ofText depth input
  | .severity, depth, input => Severity.variants.ofText depth input
  | .json, depth, input => value depth input

/-- The text of the next item of an array, unless the array ends. The first
item has no comma in front of it. -/
def nextItem? (first : Bool) (text : List Char) :
    Except Json.TextFault (Option (List Char)) :=
  match skipBlank text with
  | [] => .error .endInList
  | ']' :: _ => .ok none
  | character :: rest =>
      if first then .ok (some (character :: rest))
      else if character = ',' then
        match skipBlank rest with
        | [] => .error .endInValue
        | ']' :: _ => .error .trailingComma
        | next => .ok (some next)
      else .error .expectedListComma

/-- The text behind the bracket that closes an array once all fields of a
record are read. -/
def closeArray (text : List Char) : Except Json.TextFault (List Char) :=
  match skipBlank text with
  | [] => .error .endInList
  | ']' :: rest => .ok rest
  | ',' :: rest =>
      match skipBlank rest with
      | ']' :: _ => .error .trailingComma
      | _ => .error .trailingCharacters
  | _ => .error .trailingCharacters

namespace RecordShape

/-- The fields from an array, behind `taken` items. -/
def rowOfText (record : RecordShape) (depth : Nat) :
    (fields : List Field) → (taken : Nat) → List Char →
      Except Fault (Row fields × List Char)
  | [], _, text => .ok ((), text)
  | field :: rest, taken, text => do
      match ← textStep (nextItem? (taken == 0) text) with
      | none => do
          let held ← field.fallback.elim
            (.error (.shape (.tooShort taken record.name record.fields.length)))
            .ok
          let (more, behind) ← record.rowOfText depth rest taken text
          .ok ((held, more), behind)
      | some item => do
          let (held, afterItem) ← field.shape.ofText depth item
          let (more, behind) ← record.rowOfText depth rest (taken + 1) afterItem
          .ok ((held, more), behind)

end RecordShape

namespace PartialRow

/-- Reads the member of a name into what is known, behind its name. -/
def readMember (depth : Nat) :
    (fields : List Field) → PartialRow fields → String → List Char →
      Except Fault (PartialRow fields × List Char)
  | [], (), _, text => do
      let rest ← textStep (skipColon text)
      let behind ← textStep (skipValue rest)
      .ok ((), behind)
  | field :: rest, (known, others), name, text =>
      if field.name = name then
        if known.isSome then .error (.shape (.duplicateField field.name))
        else do
          let value ← textStep (skipColon text)
          let (held, behind) ← field.shape.ofText depth value
          .ok ((some held, others), behind)
      else do
        let (more, behind) ← readMember depth rest others name text
        .ok ((known, more), behind)

end PartialRow

/-- The fields of a record, from the text of the record. -/
def RecordShape.ofText (record : RecordShape) (depth : Nat) (text : List Char) :
    Except Fault (Row record.fields × List Char) :=
  match skipBlank text with
  | [] => .error (.text .endInValue)
  | '[' :: rest =>
      match depth with
      | 0 => .error (.text .nestedTooDeep)
      | inner + 1 => do
          let (row, behind) ← record.rowOfText inner record.fields 0 rest
          let after ← textStep (closeArray behind)
          .ok (row, after)
  | '{' :: rest =>
      match depth with
      | 0 => .error (.text .nestedTooDeep)
      | inner + 1 => do
          let (known, behind) ←
            members (PartialRow.readMember inner record.fields)
              (PartialRow.empty record.fields) rest
          let row ← shapeStep (PartialRow.complete record.fields known)
          .ok (row, behind)
  | first :: rest => .error (wrongTypeAt record.expected first rest)

end AggregateRules
