import AggregateRules.Model.Diagnostic

/-!
# Compilation errors

Each way in which rules can fail to compile is one cause. An error names the
node that owns the rules, so that its author can find the mistake, and quotes
the part of the configuration that is wrong. The diagnostic of a model comes
through as it is.
-/

namespace AggregateRules

/-- Why the rules of a node do not compile. The first five are faults of a
configuration as it is written, before its meaning is looked at. -/
inductive CompileError where
  | missingCondition (node rule : String)
  | conflictingCondition (node rule : String)
  | unknownRuleKind (node kind : String)
  | unknownAction (node action : String)
  | malformedConfiguration (node reason : String)
  | duplicateVariable (node name : String)
  | qualifiedEventName (node event : String)
  | eventNotConnected (node event : String)
  | reservedVariableName (node name : String)
  | invalidClassName (node name className : String)
  | collaborator (diagnostic : Diagnostic)
  deriving DecidableEq

namespace CompileError

/-- What is wrong. -/
def message : CompileError → String
  | .missingCondition node rule =>
      "condition rule on " ++ node ++ " has neither 'if' nor 'ifNot': " ++ rule
  | .conflictingCondition node rule =>
      "condition rule on " ++ node ++ " has both 'if' and 'ifNot': " ++ rule
  | .unknownRuleKind node kind =>
      "unknown rule type '" ++ kind ++ "' on " ++ node
  | .unknownAction node action =>
      "unrecognized 'then' action on " ++ node ++ ": " ++ action
  | .malformedConfiguration node reason =>
      "malformed rule configuration on " ++ node ++ ": " ++ reason
  | .duplicateVariable node name =>
      "duplicate variable '" ++ name ++ "' on " ++ node
  | .qualifiedEventName node event =>
      "event name '" ++ event ++ "' on " ++ node ++
        " must not contain a qualifier"
  | .eventNotConnected node event =>
      "event '" ++ event ++ "' is not connected to " ++ node
  | .reservedVariableName node name =>
      "variable name '" ++ name ++ "' on " ++ node ++ " is reserved"
  | .invalidClassName node name className =>
      "'" ++ name ++ "' on " ++ node ++
        " does not derive a usable class name (got '" ++ className ++ "')"
  | .collaborator diagnostic => diagnostic.message

/-- What would be right. -/
def details : CompileError → String
  | .missingCondition .. | .conflictingCondition .. =>
      "a condition rule takes exactly one of: if, ifNot"
  | .unknownRuleKind .. => "allowed rule types: always, condition"
  | .unknownAction .. =>
      "allowed actions: record event, throw error, assign variable, " ++
        "trigger command, perform query, execute rules"
  | .malformedConfiguration .. =>
      "rule: \x7b type: always|condition, if|ifNot: <expression>, " ++
        "stop: <bool>, then: \x7b recordEvent: " ++
        "\x7b eventName, mapping \x7d \x7d | " ++
        "\x7b executeRules: \x7b rules \x7d \x7d \x7d"
  | .duplicateVariable .. =>
      "each variable is declared once, before any rule runs"
  | .qualifiedEventName .. =>
      "expected the bare event name; " ++
        "the service and aggregate prefix is inferred"
  | .eventNotConnected .. =>
      "draw a relation from the aggregate to the event " ++
        "so the aggregate may record it"
  | .reservedVariableName .. =>
      "'__proto__' cannot be stored in the variable namespace"
  | .invalidClassName .. =>
      "service and event names must start with a letter " ++
        "once separators are removed"
  | .collaborator diagnostic => diagnostic.details

/-- The error as it is shown to the author of the rules. -/
def diagnostic : CompileError → Diagnostic
  | .collaborator diagnostic => diagnostic
  | error => .error error.message error.details

end CompileError

end AggregateRules
