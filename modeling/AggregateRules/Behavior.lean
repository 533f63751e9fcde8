import AggregateRules.Compilation.Basic

/-!
# Behaviors

A behavior collects variables and rules one by one and is compiled for a node
when it is complete.
-/

namespace AggregateRules

/-- The variables and rules of a behavior, each in their order. -/
structure Behavior where
  declared : List Variable
  rules : List Rule

namespace Behavior

def empty : Behavior :=
  ⟨[], []⟩

def declare (behavior : Behavior) (entry : Variable) : Behavior :=
  { behavior with declared := behavior.declared ++ [entry] }

def addRules (behavior : Behavior) (rules : List Rule) : Behavior :=
  { behavior with rules := behavior.rules ++ rules }

def addRule (behavior : Behavior) (rule : Rule) : Behavior :=
  behavior.addRules [rule]

/-- Compiles the behavior for a node, and tells about it. -/
def run (behavior : Behavior) (node : Node) (model : Model) : Logged Block :=
  Compilation.run node model behavior.rules behavior.declared

def compile (behavior : Behavior) (node : Node) (model : Model) :
    Except CompileError Block :=
  AggregateRules.compile node model behavior.rules behavior.declared

end Behavior

end AggregateRules
