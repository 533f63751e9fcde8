import AggregateRules.OrderedMap
import AggregateRules.Rule.Expression

/-!
# Rules

A behavior of an aggregate is a list of rules. A rule acts always or under a
condition, and its action records an event or runs further rules. A condition
rule that stops ends the whole behavior after it has acted.
-/

namespace AggregateRules

/-- The data of a recorded event: the value of one expression, or of one
expression for each field. -/
inductive Mapping where
  | expression (value : Expression)
  | fields (fields : OrderedMap Expression)
  deriving DecidableEq

/-- A condition holds if its expression is true, or if it is not true when
`negated`. -/
structure Condition where
  test : Expression
  negated : Bool
  deriving DecidableEq

mutual

/-- A rule. Only a condition rule can stop the behavior. -/
inductive Rule where
  | always (action : Action)
  | condition (condition : Condition) (action : Action) (stop : Bool)

/-- What a rule does when it applies. -/
inductive Action where
  | recordEvent (event : String) (mapping : Mapping)
  | executeRules (rules : List Rule)

end

namespace Mapping

/-- A mapping of fields. A field that is given twice keeps its first place and
its last value. -/
def ofFields (fields : List (String × Expression)) : Mapping :=
  .fields (OrderedMap.ofList fields)

/-- Whether two mappings agree up to the order of their fields. -/
def same : Mapping → Mapping → Bool
  | .expression left, .expression right => left == right
  | .fields left, .fields right => left.sameEntries right
  | _, _ => false

end Mapping

namespace Rule

def whenTrue (test : Expression) (action : Action) : Rule :=
  .condition ⟨test, false⟩ action false

def whenFalse (test : Expression) (action : Action) : Rule :=
  .condition ⟨test, true⟩ action false

/-- The rule that also ends the behavior after it has acted. A rule that always
applies stays as it is. -/
def stopping : Rule → Rule
  | .always action => .always action
  | .condition given action _ => .condition given action true

def action : Rule → Action
  | .always action => action
  | .condition _ action _ => action

end Rule

mutual

/-- Whether two rules agree up to the order of fields in their mappings. -/
def Rule.same : Rule → Rule → Bool
  | .always left, .always right => left.same right
  | .condition leftCondition left leftStop,
      .condition rightCondition right rightStop =>
      leftCondition == rightCondition && left.same right &&
        leftStop == rightStop
  | _, _ => false

def Action.same : Action → Action → Bool
  | .recordEvent leftEvent leftMapping, .recordEvent rightEvent rightMapping =>
      leftEvent == rightEvent && leftMapping.same rightMapping
  | .executeRules left, .executeRules right => Rule.sameList left right
  | _, _ => false

def Rule.sameList : List Rule → List Rule → Bool
  | [], [] => true
  | left :: leftRest, right :: rightRest =>
      left.same right && Rule.sameList leftRest rightRest
  | _, _ => false

end

mutual

/-- The names of the events that a rule records, nested rules included, in the
order of the text. -/
def Rule.recordedEvents : Rule → List String
  | .always action => action.recordedEvents
  | .condition _ action _ => action.recordedEvents

def Action.recordedEvents : Action → List String
  | .recordEvent event _ => [event]
  | .executeRules rules => Rule.recordedEventsOf rules

def Rule.recordedEventsOf : List Rule → List String
  | [] => []
  | rule :: rest => rule.recordedEvents ++ Rule.recordedEventsOf rest

end

end AggregateRules
