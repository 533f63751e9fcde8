import AggregateRules.Record.Shape

/-!
# Records from JSON values

A record is saved as an object, whose members may come in any order and among
members of other names, or as an array of its fields. The first fault in the
order of the value is the one that is reported; a missing field is noticed at
the end.
-/

namespace AggregateRules

open Json (ShapeFault)

/-- A variant is its name, or an object with its name as the only member and
null in it. -/
def Variants.ofJson (variants : Variants α) : Json → Except ShapeFault α
  | .string name => variants.named name
  | .object [(name, content)] => do
      let value ← variants.named name
      match content with
      | .null => .ok value
      | other => .error (.wrongType other.found "unit")
  | .object _ => .error .notOneMember
  | other => .error (.wrongType other.found "string or map")

def textOfJson : Json → Except ShapeFault String
  | .string text => .ok text
  | other => .error (.wrongType other.found "a string")

def FieldShape.ofJson :
    (shape : FieldShape) → Json → Except ShapeFault shape.Carrier
  | .text, value => textOfJson value
  | .nodeKind, value => NodeKind.variants.ofJson value
  | .severity, value => Severity.variants.ofJson value
  | .json, value => .ok value

namespace RecordShape

/-- The fields from the items of an array, and the items behind them; `taken`
items came before. -/
def rowOfItems (record : RecordShape) :
    (fields : List Field) → (taken : Nat) → List Json →
      Except ShapeFault (Row fields × List Json)
  | [], _, items => .ok ((), items)
  | field :: rest, taken, [] => do
      let held ← field.fallback.elim
        (.error (.tooShort taken record.name record.fields.length)) .ok
      let (more, behind) ← record.rowOfItems rest taken []
      .ok ((held, more), behind)
  | field :: rest, taken, item :: items => do
      let held ← field.shape.ofJson item
      let (more, behind) ← record.rowOfItems rest (taken + 1) items
      .ok ((held, more), behind)

end RecordShape

namespace PartialRow

/-- Adds a member of an object to what is known. A member of an unknown name
changes nothing. -/
def addMember :
    (fields : List Field) → PartialRow fields → String → Json →
      Except ShapeFault (PartialRow fields)
  | [], (), _, _ => .ok ()
  | field :: rest, (known, others), name, value =>
      if field.name = name then
        if known.isSome then .error (.duplicateField field.name)
        else do
          let held ← field.shape.ofJson value
          .ok (some held, others)
      else do
        let more ← addMember rest others name value
        .ok (known, more)

def addMembers (fields : List Field) (known : PartialRow fields) :
    List (String × Json) → Except ShapeFault (PartialRow fields)
  | [] => .ok known
  | (name, value) :: rest => do
      let extended ← addMember fields known name value
      addMembers fields extended rest

end PartialRow

/-- The fields of a record, from its value. -/
def RecordShape.ofJson (record : RecordShape) :
    Json → Except ShapeFault (Row record.fields)
  | .array items => do
      let (row, behind) ← record.rowOfItems record.fields 0 items
      if behind.isEmpty then .ok row else .error (.tooLong items.length)
  | .object members => do
      let known ← PartialRow.addMembers record.fields
        (PartialRow.empty record.fields) members
      PartialRow.complete record.fields known
  | other => .error (.wrongType other.found record.expected)

end AggregateRules
