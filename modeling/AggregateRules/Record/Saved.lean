import AggregateRules.Json.Compact
import AggregateRules.Record.OfJson
import AggregateRules.Record.OfText
import AggregateRules.Rule.Expression

/-!
# Saved values

What can be saved as JSON and read again: nodes and their kinds, diagnostics
and their severities, expressions and variables. Each comes with its shape,
with the value that is built from what its fields hold, and with the JSON value
that it is saved as.
-/

namespace AggregateRules

/-- How values of a type are saved and read. -/
structure Saved (α : Type) where
  toJson : α → Json
  ofJson : Json → Except Json.ShapeFault α
  ofText : (depth : Nat) → List Char → Except Json.Fault (α × List Char)

namespace Saved

def parse (saved : Saved α) (text : String) : Except Json.Fault α :=
  Json.Reader.toEnd (saved.ofText Json.depthLimit text.toList)

/-- Values that are saved like what a field holds. -/
def field (shape : FieldShape) (save : α → Json) (build : shape.Carrier → α) :
    Saved α where
  toJson := save
  ofJson value := (shape.ofJson value).map build
  ofText depth text :=
    (shape.ofText depth text).map fun (held, rest) => (build held, rest)

def record (shape : RecordShape) (save : α → Json)
    (build : Row shape.fields → α) :
    Saved α where
  toJson := save
  ofJson value := (shape.ofJson value).map build
  ofText depth text :=
    (shape.ofText depth text).map fun (row, rest) => (build row, rest)

end Saved

def NodeKind.saved : Saved NodeKind :=
  .field .nodeKind (fun kind => .string kind.name) id

def Severity.saved : Saved Severity :=
  .field .severity (fun severity => .string severity.name) id

def Expression.saved : Saved Expression :=
  .field .text (fun expression => .string expression.source) Expression.mk

def Node.shape : RecordShape where
  name := "Node"
  fields :=
    [⟨"id", .text, none⟩, ⟨"name", .text, none⟩, ⟨"kind", .nodeKind, none⟩]

def Node.saved : Saved Node :=
  .record shape
    (fun node =>
      .object
        [("id", .string node.id), ("name", .string node.name),
          ("kind", NodeKind.saved.toJson node.kind)])
    fun (id, name, kind, ()) => ⟨id, name, kind⟩

def Diagnostic.shape : RecordShape where
  name := "Diagnostic"
  fields :=
    [⟨"message", .text, none⟩, ⟨"level", .severity, none⟩,
      ⟨"details", .text, some ""⟩]

def Diagnostic.saved : Saved Diagnostic :=
  .record shape
    (fun diagnostic =>
      .object
        [("message", .string diagnostic.message),
          ("level", Severity.saved.toJson diagnostic.severity),
          ("details", .string diagnostic.details)])
    fun (message, severity, details, ()) => ⟨message, severity, details⟩

def Variable.shape : RecordShape where
  name := "Variable"
  fields := [⟨"name", .text, none⟩, ⟨"initializer", .text, none⟩]

def Variable.saved : Saved Variable :=
  .record shape
    (fun declared =>
      .object
        [("name", .string declared.name),
          ("initializer", Expression.saved.toJson declared.initializer)])
    fun (name, initializer, ()) => ⟨name, ⟨initializer⟩⟩

end AggregateRules
