import AggregateRules.Model.Diagnostic
import AggregateRules.Model.Node

/-!
# What rules ask of a model

Compilation needs two answers about the node that owns the rules. Whoever keeps
the model gives them, or explains in a diagnostic why there is no answer.
-/

namespace AggregateRules

/-- The answers of a model about its nodes. -/
structure Model where
  /-- The label of the service that a node belongs to. -/
  owningService : Node → Except Diagnostic String
  /-- The nodes of one kind that relations of a node lead to. -/
  outgoingTargets : Node → NodeKind → Except Diagnostic (List Node)

end AggregateRules
