import AggregateRules.Block.Basic
import AggregateRules.Compilation.Log
import AggregateRules.Label.ClassName
import AggregateRules.Model.Basic

/-!
# Compilation of rules

The rules of a node become a block: the variables are declared, and then each
rule follows as one statement, behind an empty line. The events that the rules
record must be known to the model as targets of the node, and the names of
their classes must be usable in generated code.

Compilation stops at the first error in the order of the text. An empty list of
rules compiles to the empty block, whatever the variables are.
-/

namespace AggregateRules

namespace Compilation

/-- A name that a variable cannot have, because assigning to it would replace
the prototype of the object that holds the variables. -/
def reservedName : String := "__proto__"

/-- The character that separates a name from its qualifier. -/
def qualifierSeparator : Char := '.'

/-- Goes through the variables in their order. Each must have a name that is
not reserved and that none of the `earlier` ones has. -/
def checkVariables (node : Node) (earlier : List String) :
    List Variable → Except CompileError Unit
  | [] => .ok ()
  | entry :: rest =>
      if entry.name = reservedName then
        .error (.reservedVariableName node.describe entry.name)
      else if entry.name ∈ earlier then
        .error (.duplicateVariable node.describe entry.name)
      else checkVariables node (entry.name :: earlier) rest

def declareVariables (declared : List Variable) : Statement :=
  .declareVariables (declared.map fun entry => (entry.name, entry.initializer))

/-- The class name of an element of the model, which must start with a letter.
-/
def usableClassName (node : Node) (label : String) :
    Except CompileError String :=
  let className := Label.className label
  if (className.toList.head?.map Unicode.isAlphabetic).getD false then
    .ok className
  else .error (.invalidClassName node.describe label className)

/-- The failure of a lookup in the model as an error of the compilation. -/
def askModel (answer : Except Diagnostic α) : Except CompileError α :=
  answer.mapError .collaborator

def payload : Mapping → Payload
  | .expression value => .whole value
  | .fields fields => .record fields.entries

/-- The statement that records an event. The checks follow each other in this
order, and the first one that fails gives the error. -/
def recordEvent (node : Node) (model : Model) (event : String)
    (mapping : Mapping) :
    Except CompileError Statement := do
  let service ← askModel (model.owningService node)
  if qualifierSeparator ∈ event.toList then
    .error (.qualifiedEventName node.describe event)
  else
    let declared ← askModel (model.outgoingTargets node .event)
    match declared.find? fun target => Label.sameClass target.name event with
    | none => .error (.eventNotConnected node.describe event)
    | some target => do
        let serviceClass ← usableClassName node service
        let eventClass ← usableClassName node target.name
        .ok (.produce serviceClass eventClass (payload mapping))

/-- Statements with a separator between each two of them. -/
def separated (statements : List Statement) : Block :=
  statements.intersperse .separator

mutual

/-- The statement of a rule. -/
def statement (node : Node) (model : Model) : Rule → Logged Statement
  | .always action => do
      Logged.tell .alwaysRule
      actionStatement node model action
  | .condition condition action stop => do
      Logged.tell (.conditionRule condition.test condition.negated stop)
      let acted ← actionStatement node model action
      pure (.branch condition (if stop then [acted, .finish] else [acted]))

def actionStatement (node : Node) (model : Model) : Action → Logged Statement
  | .recordEvent event mapping =>
      Logged.lift (recordEvent node model event mapping)
  | .executeRules rules => do
      let statements ← statements node model rules
      pure (.scope (separated statements))

def statements (node : Node) (model : Model) :
    List Rule → Logged (List Statement)
  | [] => pure []
  | rule :: rest => do
      let first ← statement node model rule
      let others ← statements node model rest
      pure (first :: others)

end

/-- The block of a list of rules that is not empty. -/
def block (node : Node) (model : Model) (rules : List Rule)
    (declared : List Variable) :
    Logged Block := do
  Logged.lift (checkVariables node [] declared)
  let statements ← statements node model rules
  pure (declareVariables declared :: .separator :: separated statements)

/-- Compiles the rules of a node, and tells about it. -/
def run (node : Node) (model : Model) (rules : List Rule)
    (declared : List Variable) :
    Logged Block :=
  match rules with
  | [] => ⟨[.noRules], .ok []⟩
  | _ =>
      let compiled := block node model rules declared
      let last : LogEntry :=
        match compiled.outcome with
        | .ok statements => .compiled statements.length
        | .error error => .failed error
      ⟨.started rules.length declared.length :: compiled.entries ++ [last],
        compiled.outcome⟩

end Compilation

def compile (node : Node) (model : Model) (rules : List Rule)
    (declared : List Variable) :
    Except CompileError Block :=
  (Compilation.run node model rules declared).outcome

end AggregateRules
