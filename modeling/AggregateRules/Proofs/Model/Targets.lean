import AggregateRules.Model.Graph
import AggregateRules.Proofs.OrderedMap

/-!
# Targets of a node in a graph

What a graph answers about a node when a relation is added. The service of a
node has nothing to do with relations. Its targets do not change when the
relation starts elsewhere, and grow at the end when it starts at the node and
leads to a node of the graph.
-/

namespace AggregateRules.Graph

theorem id_of_node? {graph : Graph} {id : String} {node : Node}
    (found : graph.node? id = some node) : node.id = id :=
  graph.id_eq_key (id, node) (mem_of_lookup found)

theorem id_of_known {graph : Graph} {node registered : Node}
    (known : graph.known node = .ok registered) : registered.id = node.id := by
  unfold Graph.known at known
  split at known
  · next other found =>
      cases known
      exact id_of_node? found
  · cases known

theorem targetsOf_append (graph : Graph) (source : Node)
    (first second : List (String × String)) :
    graph.targetsOf source (first ++ second) = (do
      let targets ← graph.targetsOf source first
      let more ← graph.targetsOf source second
      .ok (targets ++ more)) := by
  induction first with
  | nil =>
      change graph.targetsOf source second =
        (graph.targetsOf source second).bind fun more => .ok ([] ++ more)
      cases graph.targetsOf source second <;> rfl
  | cons relation rest ih =>
      obtain ⟨start, target⟩ := relation
      rw [List.cons_append, targetsOf, targetsOf, ih]
      split
      · cases graph.node? target with
        | none => rfl
        | some node =>
            cases graph.targetsOf source rest with
            | error fault => rfl
            | ok targets => cases graph.targetsOf source second <;> rfl
      · rfl

/-- The targets of a node are the nodes that its relations lead to, one for each
relation and in their order; none of these may be missing. -/
theorem targetsOf_eq_ok_iff {graph : Graph} {source : Node}
    {relations : List (String × String)} {targets : List Node} :
    graph.targetsOf source relations = .ok targets ↔
      (relations.filter fun relation => relation.1 = source.id).map
          (fun relation => graph.node? relation.2) = targets.map some := by
  induction relations generalizing targets with
  | nil => cases targets <;> simp [targetsOf]
  | cons relation rest ih =>
      obtain ⟨start, target⟩ := relation
      rw [targetsOf]
      by_cases here : start = source.id
      · rw [if_pos here, List.filter_cons_of_pos (by simpa using here),
          List.map_cons]
        cases registered : graph.node? target with
        | none => cases targets <;> simp
        | some node =>
            cases targets with
            | nil =>
                cases graph.targetsOf source rest <;> simp [bind, Except.bind]
            | cons first others =>
                rw [List.map_cons, List.cons.injEq, ← ih]
                cases graph.targetsOf source rest <;> simp [bind, Except.bind]
      · rw [if_neg here, List.filter_cons_of_neg (by simpa using here)]
        exact ih

section

variable (graph : Graph) (source target : String)

theorem targetsOf_addRelation (node : Node)
    (relations : List (String × String)) :
    (graph.addRelation source target).targetsOf node relations =
      graph.targetsOf node relations := by
  induction relations with
  | nil => rfl
  | cons relation rest ih =>
      obtain ⟨start, destination⟩ := relation
      have sameNodes : (graph.addRelation source target).node? destination =
          graph.node? destination := rfl
      rw [targetsOf, targetsOf, ih, sameNodes]

theorem serviceAround_addRelation (steps : Nat) (node : Node) :
    (graph.addRelation source target).serviceAround steps node =
      graph.serviceAround steps node := by
  induction steps generalizing node with
  | zero => rfl
  | succ steps ih =>
      have sameParents : (graph.addRelation source target).parent? node.id =
          graph.parent? node.id := rfl
      rw [serviceAround, serviceAround, sameParents, funext ih]

/-- Relations do not change the service of a node. -/
theorem owningService_addRelation (node : Node) :
    (graph.addRelation source target).owningService node =
      graph.owningService node := by
  have sameKnown : (graph.addRelation source target).known node =
      graph.known node := rfl
  have sameCount : (graph.addRelation source target).nodes.length =
      graph.nodes.length := rfl
  simp only [owningService, sameKnown, sameCount, serviceAround_addRelation]

end

theorem outgoingTargets_of_unknown {graph : Graph} {node : Node}
    {fault : Fault} (unknown : graph.known node = .error fault)
    (kind : NodeKind) : graph.outgoingTargets node kind = .error fault := by
  rw [outgoingTargets, unknown]
  rfl

theorem outgoingTargets_of_known {graph : Graph} {node registered : Node}
    (known : graph.known node = .ok registered) (kind : NodeKind) :
    graph.outgoingTargets node kind =
      (graph.targetsOf registered graph.relations).map
        (List.filter fun target => target.kind = kind) := by
  rw [outgoingTargets, known]
  change (graph.targetsOf registered graph.relations).bind _ = _
  cases graph.targetsOf registered graph.relations <;> rfl

section

variable {graph : Graph} {node : Node} {source target : String}

/-- What a graph gives as a target is a node of the asked kind, and a relation
of the node leads to it. -/
theorem exists_relation_of_target {kind : NodeKind} {targets : List Node}
    (answer : graph.outgoingTargets node kind = .ok targets) {found : Node}
    (member : found ∈ targets) :
    ∃ id, (node.id, id) ∈ graph.relations ∧ graph.node? id = some found ∧
      found.kind = kind := by
  cases known : graph.known node with
  | error fault =>
      cases (outgoingTargets_of_unknown known kind).symm.trans answer
  | ok registered =>
      rw [outgoingTargets_of_known known] at answer
      cases all : graph.targetsOf registered graph.relations with
      | error fault =>
          rw [all] at answer
          cases answer
      | ok nodes =>
          rw [all] at answer
          cases answer
          obtain ⟨isTarget, ofKind⟩ := List.mem_filter.mp member
          have led : some found ∈ nodes.map some := List.mem_map_of_mem isTarget
          rw [← targetsOf_eq_ok_iff.mp all] at led
          obtain ⟨relation, ofNode, registered⟩ := List.mem_map.mp led
          obtain ⟨isRelation, starts⟩ := List.mem_filter.mp ofNode
          have starts := of_decide_eq_true starts
          rw [id_of_known known] at starts
          refine ⟨relation.2, ?_, registered, of_decide_eq_true ofKind⟩
          rw [← starts]
          exact isRelation

/-- A relation that starts at another node changes nothing. -/
theorem outgoingTargets_addRelation_elsewhere (elsewhere : source ≠ node.id)
    (kind : NodeKind) :
    (graph.addRelation source target).outgoingTargets node kind =
      graph.outgoingTargets node kind := by
  cases known : graph.known node with
  | error fault =>
      have stillUnknown : (graph.addRelation source target).known node =
          .error fault := known
      rw [outgoingTargets_of_unknown known,
        outgoingTargets_of_unknown stillUnknown]
  | ok registered =>
      have apart : source ≠ registered.id := by rwa [id_of_known known]
      have noMore : graph.targetsOf registered [(source, target)] = .ok [] := by
        rw [targetsOf, if_neg apart, targetsOf]
      have stillKnown : (graph.addRelation source target).known node =
          .ok registered := known
      rw [outgoingTargets_of_known known, outgoingTargets_of_known stillKnown,
        targetsOf_addRelation, addRelation, targetsOf_append, noMore]
      cases graph.targetsOf registered graph.relations with
      | error fault => rfl
      | ok targets =>
          change Except.ok ((targets ++ []).filter _) = _
          rw [List.append_nil]
          rfl

/-- A relation to a node of the graph adds this node to the targets of its
kind. -/
theorem outgoingTargets_addRelation {found : Node}
    (registeredTarget : graph.node? target = some found) (kind : NodeKind) :
    (graph.addRelation node.id target).outgoingTargets node kind =
      (graph.outgoingTargets node kind).map
        (· ++ if found.kind = kind then [found] else []) := by
  cases known : graph.known node with
  | error fault =>
      have stillUnknown : (graph.addRelation node.id target).known node =
          .error fault := known
      rw [outgoingTargets_of_unknown known,
        outgoingTargets_of_unknown stillUnknown]
      rfl
  | ok registered =>
      have oneMore : graph.targetsOf registered [(node.id, target)] =
          .ok [found] := by
        rw [targetsOf, if_pos (id_of_known known).symm, registeredTarget]
        rfl
      have stillKnown : (graph.addRelation node.id target).known node =
          .ok registered := known
      rw [outgoingTargets_of_known known, outgoingTargets_of_known stillKnown,
        targetsOf_addRelation, addRelation, targetsOf_append, oneMore]
      cases graph.targetsOf registered graph.relations with
      | error fault => rfl
      | ok targets =>
          change Except.ok ((targets ++ [found]).filter _) =
            Except.ok (targets.filter _ ++ _)
          rw [List.filter_append, List.filter_cons, List.filter_nil]
          simp only [decide_eq_true_eq]

end

end AggregateRules.Graph
