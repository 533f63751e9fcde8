import AggregateRules.Behavior
import AggregateRules.Configuration.Basic

/-!
# Writing configurations

Rules and variables in the form that a configuration has. A condition rule
always says whether it stops, and the fields of a mapping keep their order.
-/

namespace AggregateRules

def Mapping.toJson : Mapping → Json
  | .expression source => .string source.source
  | .fields sources =>
      .object (sources.entries.map fun (name, source) =>
        (name, .string source.source))

/-- The member that holds the expression of a condition. -/
def Condition.member (condition : Condition) : String × Json :=
  (if condition.negated then "ifNot" else "if", .string condition.test.source)

mutual

/-- A rule as an object. -/
def Rule.toJson : Rule → Json
  | .always action =>
      .object [("type", .string "always"), ("then", action.toJson)]
  | .condition given action stops =>
      .object
        [("type", .string "condition"), given.member, ("then", action.toJson),
          ("stop", .bool stops)]

def Action.toJson : Action → Json
  | .recordEvent event mapping =>
      .object
        [("recordEvent",
          .object [("eventName", .string event), ("mapping", mapping.toJson)])]
  | .executeRules rules =>
      .object
        [("executeRules", .object [("rules", .array (Rule.listToJson rules))])]

def Rule.listToJson : List Rule → List Json
  | [] => []
  | rule :: rest => rule.toJson :: Rule.listToJson rest

end

/-- The configuration of a behavior. -/
def Configuration.ofBehavior (behavior : Behavior) : Configuration where
  rules := .array (Rule.listToJson behavior.rules)
  declared := .array (behavior.declared.map Variable.saved.toJson)

end AggregateRules
