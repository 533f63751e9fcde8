/-!
# Elements of a model

A model of an event-driven application consists of services, aggregates,
commands, events and queries. Each element is a node: an identity that
relations refer to, a label that people read, and a kind.
-/

namespace AggregateRules

/-- The kinds of elements that rules care about. -/
inductive NodeKind where
  | service
  | aggregate
  | command
  | event
  | query
  deriving DecidableEq

namespace NodeKind

def name : NodeKind → String
  | .service => "service"
  | .aggregate => "aggregate"
  | .command => "command"
  | .event => "event"
  | .query => "query"

/-- All kinds, in the order in which messages list them. -/
def all : List NodeKind :=
  [.service, .aggregate, .command, .event, .query]

end NodeKind

/-- An element of a model. -/
structure Node where
  id : String
  name : String
  kind : NodeKind
  deriving DecidableEq

/-- How messages refer to a node, such as `aggregate 'Order'`. -/
def Node.describe (node : Node) : String :=
  node.kind.name ++ " '" ++ node.name ++ "'"

end AggregateRules
