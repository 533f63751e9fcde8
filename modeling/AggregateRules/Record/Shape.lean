import AggregateRules.Json.Fault
import AggregateRules.Json.Value
import AggregateRules.Model.Diagnostic
import AggregateRules.Model.Node

/-!
# Shapes of records

The elements of a model, diagnostics, variables and configurations are saved as
JSON. A shape says what a saved value looks like and which type it has once it
is read. Records have named fields in a fixed order; a field with a fallback
may be left out.
-/

namespace AggregateRules

/-- What a field holds. -/
inductive FieldShape where
  | text
  | nodeKind
  | severity
  | json

/-- The type of what a field holds. -/
abbrev FieldShape.Carrier : FieldShape → Type
  | .text => String
  | .nodeKind => NodeKind
  | .severity => Severity
  | .json => Json

/-- A field of a record. -/
structure Field where
  name : String
  shape : FieldShape
  fallback : Option shape.Carrier

/-- A record: the name by which messages refer to it, and its fields. -/
structure RecordShape where
  name : String
  fields : List Field

/-- What the fields of a record hold, field by field. -/
abbrev Row : List Field → Type
  | [] => Unit
  | field :: rest => field.shape.Carrier × Row rest

/-- What is known of the fields of a record while it is read. -/
abbrev PartialRow : List Field → Type
  | [] => Unit
  | field :: rest => Option field.shape.Carrier × PartialRow rest

namespace PartialRow

def empty : (fields : List Field) → PartialRow fields
  | [] => ()
  | _ :: rest => (none, empty rest)

/-- The whole row. A field that was not read holds its fallback; the first one
without a fallback is missed. -/
def complete :
    (fields : List Field) → PartialRow fields →
      Except Json.ShapeFault (Row fields)
  | [], () => .ok ()
  | field :: rest, (known, others) => do
      let held ← (known <|> field.fallback).elim
        (.error (.missingField field.name)) .ok
      let more ← complete rest others
      .ok (held, more)

end PartialRow

/-- A name and the value that it stands for. -/
abbrev Variants (α : Type) := List (String × α)

def Variants.named (variants : Variants α) (name : String) :
    Except Json.ShapeFault α :=
  match variants.lookup name with
  | some value => .ok value
  | none => .error (.unknownVariant name (variants.map Prod.fst))

def NodeKind.variants : Variants NodeKind :=
  NodeKind.all.map fun kind => (kind.name, kind)

def Severity.variants : Variants Severity :=
  Severity.all.map fun severity => (severity.name, severity)

/-- How messages refer to a record that they expect. -/
def RecordShape.expected (record : RecordShape) : String :=
  "struct " ++ record.name

end AggregateRules
