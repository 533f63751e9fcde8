import AggregateRules.Proofs.Compilation.Recordable
import AggregateRules.Proofs.Model.Targets

/-!
# Connecting a node to its events

A relation that is added to a graph never spoils what compiled before, unless it
starts at the node of the rules and leads nowhere. And where an event was not
connected, a relation to an event of its class settles this for all spellings of
the class, see `compile_after_addRelation`.
-/

namespace AggregateRules

open Compilation

/-- A model that answers about a node as another one does, except that it may
know more events. -/
structure Model.Extends (node : Node) (model more : Model) : Prop where
  sameService : more.owningService node = model.owningService node
  moreTargets : ∀ targets, model.outgoingTargets node .event = .ok targets →
    ∃ others, more.outgoingTargets node .event = .ok (targets ++ others)

section

variable {node : Node} {model more : Model} {rules : List Rule}
  {declared : List Variable}

theorem Model.Extends.serviceClass_eq (extension : model.Extends node more) :
    more.serviceClass node = model.serviceClass node := by
  rw [Model.serviceClass, Model.serviceClass, extension.sameService]

theorem Recordable.of_extends {event : String}
    (recordable : Recordable node model event)
    (extension : model.Extends node more) : Recordable node more event := by
  obtain ⟨asked, bare, known, connected, serviceLetter, eventLetter⟩ :=
    recordable
  obtain ⟨others, moreKnown⟩ := extension.moreTargets _ known
  refine .intro ?_ bare moreKnown ?_ serviceLetter eventLetter
  · rw [extension.sameService, asked]
  · rw [classNames, List.map_append]
    exact List.mem_append_left _ connected

/-- What compiles compiles to the same block when more events are known. -/
theorem compile_of_extends (extension : model.Extends node more)
    {block : Block} (compiled : compile node model rules declared = .ok block) :
    compile node more rules declared = .ok block := by
  by_cases isEmpty : rules = []
  · subst isEmpty
    exact compiled
  · obtain ⟨namesPass, eventsPass, shape⟩ :=
      (compile_eq_ok_iff isEmpty).mp compiled
    refine (compile_eq_ok_iff isEmpty).mpr ⟨namesPass, ?_, ?_⟩
    · intro event member
      have recordable :=
        checkEvent_eq_ok_iff_recordable.mp (eventsPass event member)
      exact checkEvent_eq_ok_iff_recordable.mpr
        (recordable.of_extends extension)
    · rw [extension.serviceClass_eq]
      exact shape

/-- Rules for which some event was not connected have no variable that cannot be
declared, and the model knows the service and the events of the node. -/
theorem answers_of_notConnected {owner event : String}
    (failed : compile node model rules declared =
      .error (.eventNotConnected owner event)) :
    ProperNames declared ∧
      ∃ service targets, model.owningService node = .ok service ∧
        model.outgoingTargets node .event = .ok targets := by
  rcases fault_of_compile_eq_error failed with
    ⟨_, _, _, _, _, fault⟩ | ⟨_, _, _, _, _, fault⟩
  · cases fault
  · refine ⟨?_, ?_⟩
    · by_contra improper
      obtain ⟨error, first⟩ :
          ∃ error, FirstVariableFault node declared error :=
        exists_firstVariableFault_iff.mpr improper
      have nonempty : rules ≠ [] := by
        rintro rfl
        cases failed
      cases failed.symm.trans (compile_of_firstVariableFault nonempty first)
      obtain ⟨_, _, _, _, _, fault⟩ := first
      cases fault
    · cases fault with
      | notConnected asked _ known _ => exact ⟨_, _, asked, known⟩

/-- An event whose class is known is never reported as not connected. -/
theorem connected_of_mem_classNames {owner event : String}
    {targets : List Node}
    (known : model.outgoingTargets node .event = .ok targets)
    (connected : Label.className event ∈ classNames targets) :
    compile node model rules declared ≠
      .error (.eventNotConnected owner event) := by
  intro failed
  rcases fault_of_compile_eq_error failed with
    ⟨_, _, _, _, _, fault⟩ | ⟨_, _, _, _, _, fault⟩
  · cases fault
  · cases fault with
    | notConnected _ _ again apart =>
        cases known.symm.trans again
        obtain ⟨target, member, sameClass⟩ := mem_classNames_iff.mp connected
        exact absurd sameClass (Bool.eq_false_iff.mp (apart target member))

/-- A recorded event that compiles on its own passes its checks. -/
theorem recordable_of_compile_alone {event : String} {mapping : Mapping}
    {block : Block}
    (compiled : compile node model [.always (.recordEvent event mapping)]
      declared = .ok block) :
    Recordable node model event := by
  have checked := ((compile_eq_ok_iff (by simp)).mp compiled).2.1
  apply checkEvent_eq_ok_iff_recordable.mp
  apply checked
  simp [Rule.recordedEventsOf, Rule.recordedEvents, Action.recordedEvents]

end

section

variable {graph : Graph} {node : Node} {source target : String}

/-- A graph gives an answer as a model where it has one. -/
theorem Graph.outgoingTargets_toModel_eq_ok_iff {kind : NodeKind}
    {targets : List Node} :
    graph.toModel.outgoingTargets node kind = .ok targets ↔
      graph.outgoingTargets node kind = .ok targets := by
  simp only [Graph.toModel]
  cases graph.outgoingTargets node kind with
  | error fault => simp [Except.mapError]
  | ok answer => simp [Except.mapError]

theorem Graph.outgoingTargets_toModel_addRelation {found : Node}
    (registered : graph.node? target = some found)
    (isEvent : found.kind = .event) {targets : List Node}
    (known : graph.toModel.outgoingTargets node .event = .ok targets) :
    (graph.addRelation node.id target).toModel.outgoingTargets node .event =
      .ok (targets ++ [found]) := by
  rw [outgoingTargets_toModel_eq_ok_iff] at known ⊢
  rw [outgoingTargets_addRelation registered, known, if_pos isEvent]
  rfl

theorem Graph.extends_addRelation
    (allowed : (graph.node? target).isSome ∨ source ≠ node.id) :
    graph.toModel.Extends node (graph.addRelation source target).toModel := by
  constructor
  · simp only [Graph.toModel, Graph.owningService_addRelation]
  · intro targets known
    rw [outgoingTargets_toModel_eq_ok_iff] at known
    simp only [outgoingTargets_toModel_eq_ok_iff]
    by_cases elsewhere : source = node.id
    · subst elsewhere
      have isNode : (graph.node? target).isSome := by simpa using allowed
      obtain ⟨found, registered⟩ := Option.isSome_iff_exists.mp isNode
      rw [outgoingTargets_addRelation registered, known]
      exact ⟨_, rfl⟩
    · refine ⟨[], ?_⟩
      rw [outgoingTargets_addRelation_elsewhere elsewhere, known,
        List.append_nil]

end

/-- What a relation that is added to a graph does to the rules of a node. Rules
that compiled compile to the same block, provided that the relation leads to a
node of the graph or starts elsewhere. If an event was not connected and the
relation leads from the node to an event of its class, then no event of this
class is reported as not connected any more, and the rules compile if nothing
else is wrong with their events and the names of their classes. -/
theorem compile_after_addRelation (graph : Graph) (node : Node)
    (rules : List Rule) (declared : List Variable) :
    (∀ source target block,
      (graph.node? target).isSome ∨ source ≠ node.id →
      compile node graph.toModel rules declared = .ok block →
      compile node (graph.addRelation source target).toModel rules declared =
        .ok block) ∧
    ∀ owner event target found,
      compile node graph.toModel rules declared =
        .error (.eventNotConnected owner event) →
      graph.node? target = some found → found.kind = .event →
      Label.sameClass found.name event = true →
      (∀ other spelling, Label.sameClass spelling event = true →
        compile node (graph.addRelation node.id target).toModel rules
          declared ≠ .error (.eventNotConnected other spelling)) ∧
      ((∀ recorded ∈ Rule.recordedEventsOf rules, '.' ∉ recorded.toList) →
        (∀ recorded ∈ Rule.recordedEventsOf rules,
          Label.sameClass recorded event = false →
          ∃ mapping block, compile node graph.toModel
            [.always (.recordEvent recorded mapping)] [] = .ok block) →
        (∀ service, graph.toModel.owningService node = .ok service →
          StartsWithLetter (Label.className service)) →
        StartsWithLetter (Label.className found.name) →
        ∃ block, compile node (graph.addRelation node.id target).toModel rules
          declared = .ok block) := by
  constructor
  · intro source target block allowed compiled
    exact compile_of_extends (Graph.extends_addRelation allowed) compiled
  · intro owner event target found failed registered isEvent sameClass
    obtain ⟨proper, service, targets, asked, known⟩ :=
      answers_of_notConnected failed
    have extension : graph.toModel.Extends node
        (graph.addRelation node.id target).toModel :=
      Graph.extends_addRelation (.inl (by simp [registered]))
    have moreKnown :=
      Graph.outgoingTargets_toModel_addRelation registered isEvent known
    have connected {spelling : String}
        (alike : Label.sameClass spelling event = true) :
        Label.className spelling ∈ classNames (targets ++ [found]) := by
      refine mem_classNames_iff.mpr ⟨found, by simp, ?_⟩
      rw [sameClass_iff] at sameClass alike ⊢
      rw [sameClass, alike]
    constructor
    · intro other spelling alike
      exact connected_of_mem_classNames moreKnown (connected alike)
    · intro bare alone serviceLetter targetLetter
      have nonempty : rules ≠ [] := by
        rintro rfl
        cases failed
      have namesPass : checkVariables node [] declared = .ok () :=
        checkVariables_eq_ok_iff.mpr ⟨proper, by simp⟩
      refine ⟨_, (compile_eq_ok_iff nonempty).mpr ⟨namesPass, ?_, rfl⟩⟩
      intro recorded member
      apply checkEvent_eq_ok_iff_recordable.mpr
      cases alike : Label.sameClass recorded event with
      | false =>
          obtain ⟨mapping, block, compiled⟩ := alone recorded member alike
          exact (recordable_of_compile_alone compiled).of_extends extension
      | true =>
          have moreAsked := extension.sameService.trans asked
          refine .intro moreAsked (bare recorded member) moreKnown
            (connected alike) (serviceLetter service asked) ?_
          rw [sameClass_iff] at sameClass alike
          rwa [alike, ← sameClass]

/-- A graph in which orders can be placed, and in which nothing leads to the
event of their archiving. -/
def Sample.orderGraph : Graph :=
  let nodes : List Node :=
    [⟨"orders", "Orders", .service⟩, Sample.order,
      ⟨"placed", "Order Placed", .event⟩,
      ⟨"archived", "Order Archived", .event⟩]
  ((nodes.foldl Graph.addNode .empty).placeInside "orders" "order").addRelation
    "order" "placed"

def Sample.placingRules : List Rule :=
  [.always (.recordEvent "orderPlaced" (.expression ⟨"rest"⟩))]

def Sample.archivingRules : List Rule :=
  Sample.placingRules ++
    [.whenTrue ⟨"old"⟩ (.executeRules
      [.always (.recordEvent "orderArchived" (.expression ⟨"rest"⟩))])]

theorem order_graph_after_addRelation :
    compile Sample.order Sample.orderGraph.toModel Sample.archivingRules
        Sample.declared =
        .error (.eventNotConnected "aggregate 'Order'" "orderArchived") ∧
      compile Sample.order
        (Sample.orderGraph.addRelation "order" "archived").toModel
        Sample.placingRules Sample.declared =
        .ok (generatedBlock "Orders" Sample.placingRules Sample.declared) ∧
      ∃ block, compile Sample.order
        (Sample.orderGraph.addRelation "order" "archived").toModel
        Sample.archivingRules Sample.declared = .ok block := by
  have failed : compile Sample.order Sample.orderGraph.toModel
      Sample.archivingRules Sample.declared =
        .error (.eventNotConnected "aggregate 'Order'" "orderArchived") := by
    decide +kernel
  refine ⟨failed, ?_, ?_⟩
  · have keeps := (compile_after_addRelation Sample.orderGraph Sample.order
      Sample.placingRules Sample.declared).1
    exact keeps "order" "archived" _ (.inl rfl) (by decide +kernel)
  · have connects := (compile_after_addRelation Sample.orderGraph Sample.order
      Sample.archivingRules Sample.declared).2
    refine (connects _ "orderArchived" "archived" _ failed rfl rfl
      (by decide +kernel)).2 ?_ ?_ ?_ ?_
    · decide
    · intro recorded member other
      have isPlaced : recorded = "orderPlaced" := by
        have isArchived : Label.sameClass "orderArchived" "orderArchived" =
            true := by simp [Label.sameClass]
        have isOne : recorded = "orderPlaced" ∨ recorded = "orderArchived" := by
          simpa [Sample.archivingRules, Sample.placingRules, Rule.whenTrue,
            Rule.recordedEventsOf, Rule.recordedEvents,
            Action.recordedEvents] using member
        rcases isOne with isPlaced | rfl
        · exact isPlaced
        · cases isArchived.symm.trans other
      subst isPlaced
      exact ⟨.expression ⟨"rest"⟩,
        generatedBlock "Orders" Sample.placingRules [], by decide +kernel⟩
    · intro service asked
      have isOrders : service = "Orders" := by
        have answer : Sample.orderGraph.toModel.owningService Sample.order =
            .ok "Orders" := by decide +kernel
        cases answer.symm.trans asked
        rfl
      subst isOrders
      exact ⟨'O', "rders".toList, by decide +kernel, by decide +kernel⟩
    · exact ⟨'O', "rderArchived".toList, by decide +kernel, by decide +kernel⟩

end AggregateRules
