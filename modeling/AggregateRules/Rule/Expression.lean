/-!
# Expressions and variables

Conditions, mappings and initializers are written in the expression language of
the modeling tool. Here an expression is only its source text: it is handed to
the evaluator of the generated code as it is, together with the variables of
the behavior.
-/

namespace AggregateRules

/-- The source text of an expression. -/
structure Expression where
  source : String
  deriving DecidableEq

/-- A variable that all rules of a behavior share, set once before the first
rule runs. -/
structure Variable where
  name : String
  initializer : Expression
  deriving DecidableEq

end AggregateRules
