import AggregateRules.OrderedMap
import AggregateRules.Rule.Expression

/-!
# Running generated code

Generated code evaluates expressions, sets variables and hands out events, and
it may end before its last statement. Nothing is assumed of the evaluator: an
evaluation may depend on what was evaluated before, it may set variables of
its own accord, and it may fail.

An execution is described by everything that can be observed of it, in order.
-/

namespace AggregateRules

/-- What one evaluation gives: a value unless it fails, and what the variables
and the hidden state of the evaluator are from then on. -/
structure Evaluation (Value State : Type) where
  value : Option Value
  store : List (String × Value)
  state : State

/-- An evaluator of expressions, and the reading of its values as conditions.
-/
structure Evaluator (Value State : Type) where
  evaluate :
    Expression → List (String × Value) → State → Evaluation Value State
  isTrue : Value → Bool

inductive EventData (Value : Type) where
  | whole (value : Value)
  | record (fields : List (String × Value))
  deriving DecidableEq

/-- What can be observed of an execution. -/
inductive Observation (Value : Type) where
  | evaluated (expression : Expression)
  | assigned (name : String) (value : Value)
  | produced (service event : String) (data : EventData Value)
  deriving DecidableEq

/-- The variables, the hidden state of the evaluator, and what has been
observed so far. -/
structure Machine (Value State : Type) where
  store : List (String × Value)
  state : State
  trace : List (Observation Value)

/-- Why an execution ends before its last statement. -/
inductive Ending where
  | finished
  | failed
  deriving DecidableEq

/-- A computation on a machine that may end the execution. -/
abbrev Execution (Value State : Type) :=
  EStateM Ending (Machine Value State)

namespace Execution

def observe (observation : Observation Value) : Execution Value State Unit :=
  modify fun machine =>
    { machine with trace := machine.trace ++ [observation] }

/-- Evaluates an expression with the current variables. -/
def evaluate (evaluator : Evaluator Value State) (expression : Expression) :
    Execution Value State Value := do
  observe (.evaluated expression)
  let machine ← get
  let evaluation :=
    evaluator.evaluate expression machine.store machine.state
  set { machine with store := evaluation.store, state := evaluation.state }
  match evaluation.value with
  | some value => pure value
  | none => throw .failed

def clear : Execution Value State Unit :=
  modify fun machine => { machine with store := [] }

def assign (name : String) (value : Value) : Execution Value State Unit := do
  observe (.assigned name value)
  modify fun machine =>
    { machine with store := putEntry name value machine.store }

def produce (service event : String) (data : EventData Value) :
    Execution Value State Unit :=
  observe (.produced service event data)

/-- Evaluates the expressions of a list in its order. -/
def evaluateFields (evaluator : Evaluator Value State) :
    List (String × Expression) → Execution Value State (List (String × Value))
  | [] => pure []
  | (name, expression) :: rest => do
      let value ← evaluate evaluator expression
      let values ← evaluateFields evaluator rest
      pure ((name, value) :: values)

/-- Sets the variables of a list, each to the value of its expression. -/
def assignAll (evaluator : Evaluator Value State) :
    List (String × Expression) → Execution Value State Unit
  | [] => pure ()
  | (name, expression) :: rest => do
      let value ← evaluate evaluator expression
      assign name value
      assignAll evaluator rest

end Execution

/-- The machine at the end of an execution, however it ends. -/
def Machine.afterwards (machine : Machine Value State)
    (execution : Execution Value State α) : Machine Value State :=
  match execution machine with
  | .ok _ final => final
  | .error _ final => final

end AggregateRules
