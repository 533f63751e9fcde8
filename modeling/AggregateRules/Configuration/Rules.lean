import AggregateRules.Compilation.Error
import AggregateRules.Json.Compact
import AggregateRules.Model.Node
import AggregateRules.Rule.Basic

/-!
# Rules in a configuration

A configuration writes a rule as an object. Its `type` is `always` or
`condition`; a condition rule has exactly one of `if` and `ifNot`, and may have
a boolean `stop`. Its `then` either holds `recordEvent` with an `eventName` and
a `mapping`, or `executeRules` with further `rules`. A null stands for an
absent condition, for no `stop` and for an empty list of rules.

The first fault in reading order is the one that is reported: rules in list
order, and within a rule its type, its condition, everything in its action, and
at last its `stop`.
-/

namespace AggregateRules

namespace Configuration

/-- A value of the wrong form in the configuration of a node. -/
def malformed (node : Node) (reason : String) : CompileError :=
  .malformedConfiguration node.describe reason

inductive RuleKind where
  | always
  | condition

/-- The kind of a rule. An unknown one is quoted, as text if it is a string. -/
def readKind (node : Node) (rule : List (String × Json)) :
    Except CompileError RuleKind :=
  match rule.lookup "type" with
  | none => .error (.unknownRuleKind node.describe "")
  | some (.string name) =>
      if name = "always" then .ok .always
      else if name = "condition" then .ok .condition
      else .error (.unknownRuleKind node.describe name)
  | some other => .error (.unknownRuleKind node.describe other.compact)

/-- An expression that may be absent or null. -/
def readExpression? (node : Node) (rule : List (String × Json))
    (name : String) :
    Except CompileError (Option Expression) :=
  match rule.lookup name with
  | none => .ok none
  | some .null => .ok none
  | some (.string source) => .ok (some ⟨source⟩)
  | some other =>
      .error (malformed node
        ("'" ++ name ++ "' must be an expression string, found " ++
          other.compact))

def readCondition (node : Node) (rule : List (String × Json)) :
    Except CompileError Condition := do
  let positive ← readExpression? node rule "if"
  let negative ← readExpression? node rule "ifNot"
  match positive, negative with
  | some test, none => .ok ⟨test, false⟩
  | none, some test => .ok ⟨test, true⟩
  | none, none =>
      .error (.missingCondition node.describe (Json.object rule).compact)
  | some _, some _ =>
      .error (.conflictingCondition node.describe (Json.object rule).compact)

/-- Whether a condition rule ends the behavior. -/
def readStop (node : Node) (rule : List (String × Json)) :
    Except CompileError Bool :=
  match rule.lookup "stop" with
  | none => .ok false
  | some .null => .ok false
  | some (.bool value) => .ok value
  | some other =>
      .error (malformed node
        ("'stop' must be a boolean, found " ++ other.compact))

/-- The fields of a mapping, each with its expression. -/
def readFields (node : Node) :
    List (String × Json) → Except CompileError (List (String × Expression))
  | [] => .ok []
  | (name, .string source) :: rest => do
      let fields ← readFields node rest
      .ok ((name, ⟨source⟩) :: fields)
  | (name, other) :: _ =>
      .error (malformed node
        ("mapping field '" ++ name ++
          "' must be an expression string, found " ++ other.compact))

def readMapping (node : Node) : Option Json → Except CompileError Mapping
  | none => .error (malformed node "'recordEvent' must carry a 'mapping'")
  | some (.string source) => .ok (.expression ⟨source⟩)
  | some (.object members) => do
      let fields ← readFields node members
      .ok (.ofFields fields)
  | some other =>
      .error (malformed node
        ("'mapping' must be an expression or an object of expressions, " ++
          "found " ++ other.compact))

def readRecord (node : Node) (record : Json) : Except CompileError Action :=
  match record.get? "eventName" with
  | some (.string event) => do
      let data ← readMapping node (record.get? "mapping")
      .ok (.recordEvent event data)
  | _ =>
      .error (malformed node "'recordEvent' must carry an 'eventName' string")

/-- The two forms of an action, each with the part of the configuration that
belongs to it. -/
inductive ActionForm where
  | record (record : Json)
  | execute (rules : Json)

/-- The form of the action of a rule. -/
def actionForm (node : Node) (rule : List (String × Json)) :
    Except CompileError ActionForm :=
  match rule.lookup "then" with
  | none => .error (.unknownAction node.describe Json.null.compact)
  | some (.object parts) =>
      match parts.lookup "recordEvent" with
      | some record => .ok (.record record)
      | none =>
          match parts.lookup "executeRules" with
          | none =>
              .error (.unknownAction node.describe (Json.object parts).compact)
          | some executed =>
              match executed.get? "rules" with
              | some rules => .ok (.execute rules)
              | none =>
                  .error (malformed node
                    "'executeRules' must carry a 'rules' list")
  | some other => .error (.unknownAction node.describe other.compact)

/-- A member is smaller than the members around it. -/
theorem sizeOf_of_lookup {members : List (String × Json)} {name : String}
    {value : Json}
    (found : members.lookup name = some value) :
    sizeOf value < sizeOf members := by
  induction members with
  | nil => simp at found
  | cons member rest ih =>
      obtain ⟨other, held⟩ := member
      rw [List.lookup_cons] at found
      split at found
      · cases found
        simp only [List.cons.sizeOf_spec, Prod.mk.sizeOf_spec]
        omega
      · have smaller := ih found
        simp only [List.cons.sizeOf_spec]
        omega

/-- The rules that an action executes are smaller than the rule itself. -/
theorem sizeOf_of_actionForm {node : Node} {rule : List (String × Json)}
    {rules : Json}
    (form : actionForm node rule = .ok (.execute rules)) :
    sizeOf rules < sizeOf rule := by
  unfold actionForm at form
  split at form
  · cases form
  · next parts isThen =>
      have thenSmaller := sizeOf_of_lookup isThen
      split at form
      · cases form
      · split at form
        · cases form
        · next executed isExecuted =>
            have executedSmaller := sizeOf_of_lookup isExecuted
            split at form
            · next inner isRules =>
                cases form
                cases executed with
                | object members =>
                    have rulesSmaller : sizeOf rules < sizeOf members :=
                      sizeOf_of_lookup
                        (show members.lookup "rules" = some rules from isRules)
                    simp only [Json.object.sizeOf_spec]
                      at thenSmaller executedSmaller
                    omega
                | _ => cases isRules
            · cases form
  · cases form

mutual

def readRules (node : Node) (value : Json) : Except CompileError (List Rule) :=
  match value with
  | .null => .ok []
  | .array items => readRuleItems node items
  | other =>
      .error (malformed node
        ("expected a list of rules, found " ++ other.compact))
termination_by sizeOf value

def readRuleItems (node : Node) (items : List Json) :
    Except CompileError (List Rule) :=
  match items with
  | [] => .ok []
  | item :: rest => do
      let first ← readRule node item
      let others ← readRuleItems node rest
      .ok (first :: others)
termination_by sizeOf items

def readRule (node : Node) (value : Json) : Except CompileError Rule :=
  match value with
  | .object members => do
      match ← readKind node members with
      | .always => do
          let acted ← readAction node members
          .ok (.always acted)
      | .condition => do
          let given ← readCondition node members
          let acted ← readAction node members
          let stops ← readStop node members
          .ok (.condition given acted stops)
  | other =>
      .error (malformed node
        ("expected a rule object, found " ++ other.compact))
termination_by sizeOf value

def readAction (node : Node) (members : List (String × Json)) :
    Except CompileError Action :=
  match _form : actionForm node members with
  | .error error => .error error
  | .ok (.record record) => readRecord node record
  | .ok (.execute value) => do
      let executed ← readRules node value
      .ok (.executeRules executed)
termination_by sizeOf members
decreasing_by exact sizeOf_of_actionForm _form

end

end Configuration

end AggregateRules
