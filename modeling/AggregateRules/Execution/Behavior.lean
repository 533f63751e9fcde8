import AggregateRules.Execution.Block
import AggregateRules.Label.ClassName

/-!
# Meaning of rules

What the rules of a behavior do, without regard to the code that is generated
for them. The variables are set first, in the order of their declaration. Then
the rules apply in their order: a rule that always applies acts, and a
condition rule evaluates its expression once and acts if the condition holds.
A condition rule that stops and has acted ends the whole behavior, not only
the list that it stands in. A behavior without rules does nothing at all.
-/

namespace AggregateRules

def Mapping.evaluate (evaluator : Evaluator Value State) :
    Mapping → Execution Value State (EventData Value)
  | .expression source => do
      let value ← Execution.evaluate evaluator source
      pure (.whole value)
  | .fields sources => do
      let values ← Execution.evaluateFields evaluator sources.entries
      pure (.record values)

mutual

/-- Applies a rule of a node whose service has a given class name. -/
def Rule.perform (evaluator : Evaluator Value State) (service : String) :
    Rule → Execution Value State Unit
  | .always action => action.perform evaluator service
  | .condition test action stops => do
      let holds ← test.evaluate evaluator
      if holds then do
        action.perform evaluator service
        if stops then throw .finished else pure ()
      else pure ()

/-- Acts. A recorded event is handed out under the name of its class. -/
def Action.perform (evaluator : Evaluator Value State) (service : String) :
    Action → Execution Value State Unit
  | .recordEvent event mapping => do
      let data ← mapping.evaluate evaluator
      Execution.produce service (Label.className event) data
  | .executeRules rules => Rule.performList evaluator service rules

def Rule.performList (evaluator : Evaluator Value State) (service : String) :
    List Rule → Execution Value State Unit
  | [] => pure ()
  | rule :: rest => do
      rule.perform evaluator service
      Rule.performList evaluator service rest

end

/-- Performs a behavior: sets the variables and applies the rules. -/
def performBehavior (evaluator : Evaluator Value State) (service : String)
    (rules : List Rule) (declared : List Variable) :
    Execution Value State Unit :=
  match rules with
  | [] => pure ()
  | _ => do
      Execution.clear
      Execution.assignAll evaluator
        (declared.map fun entry => (entry.name, entry.initializer))
      Rule.performList evaluator service rules

end AggregateRules
