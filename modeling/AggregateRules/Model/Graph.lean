import AggregateRules.Model.Basic
import AggregateRules.OrderedMap

/-!
# Models as graphs

A graph is built by declarations in any order: a node, its place inside another
node, a relation from one node to another. A node that is declared again
replaces the earlier one, and so does a place. Relations are kept in their
order, all of them. A graph is a model: the service of a node is the nearest
one among the node itself and the nodes that it lies in.
-/

namespace AggregateRules

/-- A model in memory: its nodes under their identities, the identities of the
nodes that others lie in, and the relations in the order of their declaration.
-/
structure Graph where
  nodes : OrderedMap Node
  id_eq_key : ∀ entry ∈ nodes.entries, entry.2.id = entry.1
  places : OrderedMap String
  relations : List (String × String)
  deriving DecidableEq

namespace Graph

def empty : Graph :=
  ⟨.empty, by simp [OrderedMap.empty], .empty, []⟩

def addNode (graph : Graph) (node : Node) : Graph where
  nodes := graph.nodes.put node.id node
  id_eq_key := by
    intro entry member
    rcases mem_putEntry member with rfl | held
    · rfl
    · exact graph.id_eq_key entry held
  places := graph.places
  relations := graph.relations

def placeInside (graph : Graph) (parent child : String) : Graph :=
  { graph with places := graph.places.put child parent }

def addRelation (graph : Graph) (source target : String) : Graph :=
  { graph with relations := graph.relations ++ [(source, target)] }

def node? (graph : Graph) (id : String) : Option Node :=
  graph.nodes.get? id

/-- The node that the node of an identity lies in. -/
def parent? (graph : Graph) (id : String) : Option Node :=
  (graph.places.get? id).bind graph.node?

/-- Why a graph has no answer about a node. -/
inductive Fault where
  | unknownNode (node : Node)
  | outsideServices (node : Node)
  | danglingRelation (source : Node) (target : String)
  deriving DecidableEq

/-- The diagnostic that explains a fault to the author of the model. -/
def Fault.diagnostic : Fault → Diagnostic
  | .unknownNode node =>
      .error (node.describe ++ " (" ++ node.id ++ ") is not part of the model")
        "the node may have been deleted from the model"
  | .outsideServices node =>
      .error (node.describe ++ " is not contained in a service")
        "place the aggregate inside a service in the model"
  | .danglingRelation source target =>
      .error
        ("relation from " ++ source.describe ++ " points to unknown node '" ++
          target ++ "'")
        "remove the dangling relation from the model"

/-- The node of the graph that has the identity of a given one. -/
def known (graph : Graph) (node : Node) : Except Fault Node :=
  match graph.node? node.id with
  | some registered => .ok registered
  | none => .error (.unknownNode node)

/-- The label of the first service among a node and the nodes around it, of
which a given number is looked at. -/
def serviceAround (graph : Graph) : Nat → Node → Option String
  | 0, _ => none
  | steps + 1, node =>
      if node.kind = .service then some node.name
      else (graph.parent? node.id).bind (graph.serviceAround steps)

/-- The label of the service that a node belongs to. Places may go round in a
circle, but there are no more nodes to look at than there are identities. -/
def owningService (graph : Graph) (node : Node) : Except Fault String := do
  let registered ← graph.known node
  match graph.serviceAround graph.nodes.length registered with
  | some name => .ok name
  | none => .error (.outsideServices node)

/-- The targets of all relations that start at a node, in order; each must be a
node of the graph. -/
def targetsOf (graph : Graph) (source : Node) :
    List (String × String) → Except Fault (List Node)
  | [] => .ok []
  | (start, target) :: rest =>
      if start = source.id then
        match graph.node? target with
        | none => .error (.danglingRelation source target)
        | some node => do
            let nodes ← graph.targetsOf source rest
            .ok (node :: nodes)
      else graph.targetsOf source rest

/-- The nodes of one kind that relations of a node lead to, in the order of the
relations. -/
def outgoingTargets (graph : Graph) (node : Node) (kind : NodeKind) :
    Except Fault (List Node) := do
  let source ← graph.known node
  let targets ← graph.targetsOf source graph.relations
  .ok (targets.filter fun target => target.kind = kind)

/-- The answers of a graph, its faults explained. -/
def toModel (graph : Graph) : Model where
  owningService node := (graph.owningService node).mapError Fault.diagnostic
  outgoingTargets node kind :=
    (graph.outgoingTargets node kind).mapError Fault.diagnostic

end Graph

end AggregateRules
