import AggregateRules.Proofs.Compilation.Connection
import AggregateRules.Proofs.Compilation.Production

/-!
# Where produced events come from

The events that a compiled block produces are the ones that its rules record,
one for each recording and in the order of the text. The rules and the model
spell them in their own ways, and the block names their classes. So every
produced event is one of the targets that the model knows; in a graph, a
relation of the node leads to it, see `produced_events_of_compile`.
-/

namespace AggregateRules

open Compilation

mutual

theorem Statement.map_event_productions (statement : Statement) :
    statement.productions.map Production.event = statement.producedEvents := by
  cases statement with
  | branch condition body => exact Block.map_event_productions body
  | scope body => exact Block.map_event_productions body
  | produce | declareVariables | finish | separator => rfl

theorem Block.map_event_productions (block : List Statement) :
    (Block.productions block).map Production.event =
      Block.producedEvents block := by
  cases block with
  | nil => rfl
  | cons statement rest =>
      have first := Statement.map_event_productions statement
      have others := Block.map_event_productions rest
      rw [Block.productions, List.map_append, first, others,
        Block.producedEvents]

end

section

variable {node : Node} {model : Model} {rules : List Rule}
  {declared : List Variable} {block : Block}

theorem producedEvents_eq_map_className
    (compiled : compile node model rules declared = .ok block) :
    Block.producedEvents block =
      (Rule.recordedEventsOf rules).map Label.className := by
  rw [← Block.map_event_productions, productions_of_compile compiled,
    ← Rule.map_event_recordingsOf, List.map_map, List.map_map]
  rfl

/-- The events of a compiled block are the classes of the events that the rules
record, in the order of the text. Each is the class of a target of the node, and
each is handed out under the class of the node's service. In a graph, a relation
leads from the node to an event of the class. -/
theorem produced_events_of_compile
    (compiled : compile node model rules declared = .ok block) :
    Block.producedEvents block =
        (Rule.recordedEventsOf rules).map Label.className ∧
      (∀ name ∈ Block.producedEvents block, ∃ targets,
        model.outgoingTargets node .event = .ok targets ∧
          ∃ target ∈ targets, Label.className target.name = name) ∧
      (Block.productions block).map Production.event =
        Block.producedEvents block ∧
      (∀ production ∈ Block.productions block, ∃ service,
        model.owningService node = .ok service ∧
          production.service = Label.className service) ∧
      ∀ graph : Graph, graph.toModel = model →
        ∀ name ∈ Block.producedEvents block, ∃ id target,
          (node.id, id) ∈ graph.relations ∧ graph.node? id = some target ∧
            target.kind = .event ∧ Label.className target.name = name := by
  have produced := producedEvents_eq_map_className compiled
  have connected : ∀ name ∈ Block.producedEvents block, ∃ targets,
      model.outgoingTargets node .event = .ok targets ∧
        ∃ target ∈ targets, Label.className target.name = name := by
    intro name member
    rw [produced] at member
    obtain ⟨event, recorded, rfl⟩ := List.mem_map.mp member
    obtain ⟨-, -, known, named, -, -⟩ :=
      recordable_of_compile compiled recorded
    obtain ⟨target, isTarget, sameClass⟩ := mem_classNames_iff.mp named
    exact ⟨_, known, target, isTarget, sameClass_iff.mp sameClass⟩
  refine ⟨produced, connected, Block.map_event_productions block, ?_, ?_⟩
  · intro production member
    rw [productions_of_compile compiled] at member
    obtain ⟨recording, isRecording, rfl⟩ := List.mem_map.mp member
    have recorded : recording.event ∈ Rule.recordedEventsOf rules := by
      rw [← Rule.map_event_recordingsOf]
      exact List.mem_map_of_mem isRecording
    obtain ⟨asked, -, -, -, -, -⟩ := recordable_of_compile compiled recorded
    refine ⟨_, asked, ?_⟩
    rw [Recording.production, Model.serviceClass, asked]
  · rintro graph rfl name member
    obtain ⟨targets, answer, target, isTarget, named⟩ := connected name member
    rw [Graph.outgoingTargets_toModel_eq_ok_iff] at answer
    obtain ⟨id, isRelation, registered, isEvent⟩ :=
      Graph.exists_relation_of_target answer isTarget
    exact ⟨id, target, isRelation, registered, isEvent, named⟩

end

/-- The graph `Sample.orderGraph` in which orders can also be archived. -/
def Sample.archivingGraph : Graph :=
  Sample.orderGraph.addRelation "order" "archived"

theorem archiving_rules_produce_events :
    compile Sample.order Sample.archivingGraph.toModel
        (Sample.archivingRules ++ Sample.placingRules) Sample.declared =
        .ok (generatedBlock "Orders"
          (Sample.archivingRules ++ Sample.placingRules) Sample.declared) ∧
      Block.producedEvents (generatedBlock "Orders"
          (Sample.archivingRules ++ Sample.placingRules) Sample.declared) =
        ["OrderPlaced", "OrderArchived", "OrderPlaced"] ∧
      ∃ id target, (Sample.order.id, id) ∈ Sample.archivingGraph.relations ∧
        Sample.archivingGraph.node? id = some target ∧ target.kind = .event ∧
          Label.className target.name = "OrderArchived" := by
  have compiled : compile Sample.order Sample.archivingGraph.toModel
      (Sample.archivingRules ++ Sample.placingRules) Sample.declared =
        .ok (generatedBlock "Orders"
          (Sample.archivingRules ++ Sample.placingRules) Sample.declared) := by
    decide +kernel
  have produced := produced_events_of_compile compiled
  have named : (Rule.recordedEventsOf
      (Sample.archivingRules ++ Sample.placingRules)).map Label.className =
        ["OrderPlaced", "OrderArchived", "OrderPlaced"] := by
    decide +kernel
  refine ⟨compiled, produced.1.trans named, ?_⟩
  apply produced.2.2.2.2 _ rfl
  rw [produced.1, named]
  decide

end AggregateRules
