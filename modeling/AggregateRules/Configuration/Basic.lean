import AggregateRules.Compilation.Basic
import AggregateRules.Configuration.Rules
import AggregateRules.Record.Saved

/-!
# Configurations

A configuration holds the rules and the variables of a behavior as the modeling
tool exports them. It is read as a whole before it is compiled, so that a fault
of its form is reported before any mistake in what it says. Where there are no
rules, nobody looks at the variables.
-/

namespace AggregateRules

/-- The rules and variables of a behavior, in the form of JSON values. -/
structure Configuration where
  rules : Json
  declared : Json

namespace Configuration

/-- The variables in a configuration, a list of names with initializers; null
is the empty list. -/
def readVariables (node : Node) (value : Json) :
    Except CompileError (List Variable) :=
  match value with
  | .null => .ok []
  | .array items =>
      (items.mapM Variable.saved.ofJson).mapError fun fault =>
        malformed node ("invalid variables: " ++ fault.message)
  | other =>
      .error (malformed node
        ("invalid variables: " ++
          (Json.ShapeFault.wrongType other.found "a sequence").message))

/-- Reads and compiles a configuration for a node, and tells about the
compilation. -/
def run (node : Node) (model : Model) (configuration : Configuration) :
    Logged Block := do
  let rules ← Logged.lift (readRules node configuration.rules)
  if rules.isEmpty then pure []
  else
    let declared ← Logged.lift (readVariables node configuration.declared)
    Compilation.run node model rules declared

def compile (node : Node) (model : Model) (configuration : Configuration) :
    Except CompileError Block :=
  (run node model configuration).outcome

/-- Whether two configurations agree up to the order of the members in their
objects. -/
def same (left right : Configuration) : Bool :=
  left.rules.same right.rules && left.declared.same right.declared

def shape : RecordShape where
  name := "BehaviorConfig"
  fields := [⟨"rules", .json, some .null⟩, ⟨"variables", .json, some .null⟩]

def saved : Saved Configuration :=
  .record shape
    (fun configuration =>
      .object
        [("rules", configuration.rules), ("variables", configuration.declared)])
    fun (rules, declared, ()) => ⟨rules, declared⟩

/-- Why a configuration cannot be loaded from a file. -/
inductive LoadFault where
  | notFound
  | invalidEncoding
  | json (fault : Json.Fault)

/-- The configuration in a file, given by its contents if there is such a file.
-/
def load (contents : Option ByteArray) : Except LoadFault Configuration :=
  match contents with
  | none => .error .notFound
  | some bytes =>
      match String.fromUTF8? bytes with
      | none => .error .invalidEncoding
      | some text => (saved.parse text).mapError .json

end Configuration

end AggregateRules
