import AggregateRules.Configuration.Basic
import AggregateRules.Proofs.Compilation.Generation
import AggregateRules.Proofs.Model.Kinds
import AggregateRules.Proofs.Model.Services

/-!
# The order of building a graph

Nodes, places and relations can be declared in any order and as often as their
author likes. What a graph answers depends on the last node of each identity, on
its last place, and on the order of the relations that start at one node, see
`answers_of_any_order`. Nothing can be told from how declarations of different
nodes interleave, and a relation that is added to a finished graph is no more
than the last declaration.
-/

namespace AggregateRules

/-- The identity that a declaration is about. -/
def Declaration.subject : Declaration → String
  | .register node => node.id
  | .place _ child => child
  | .relate source _ => source

/-- Whether two lists of declarations say the same of each identity in the end.
-/
structure SaySame (left right : List Declaration) : Prop where
  nodes : ∀ id, lastNode? left id = lastNode? right id
  parents : ∀ id, lastParent? left id = lastParent? right id
  targets : ∀ id, targetIds left id = targetIds right id

namespace SaySame

variable {left right : List Declaration}

/-- Nothing is known of an identity that no declaration is about. -/
theorem of_no_subject {id : String}
    (absent : id ∉ (left ++ right).map Declaration.subject) :
    lastNode? left id = lastNode? right id ∧
      lastParent? left id = lastParent? right id ∧
      targetIds left id = targetIds right id := by
  have silent {α : Type} {read : Declaration → Option α}
      (reads : ∀ declaration, declaration.subject ≠ id →
        read declaration = none) :
      left.filterMap read = right.filterMap read := by
    have nothing : ∀ declaration ∈ left ++ right, read declaration = none := by
      intro declaration member
      exact reads declaration fun isSubject =>
        absent (List.mem_map.mpr ⟨declaration, member, isSubject⟩)
    rw [List.forall_mem_append] at nothing
    rw [List.filterMap_eq_nil_iff.mpr nothing.1,
      List.filterMap_eq_nil_iff.mpr nothing.2]
  refine ⟨congrArg List.getLast? (silent ?_),
    congrArg List.getLast? (silent ?_), silent ?_⟩
  · intro declaration other
    cases declaration with
    | register node => exact if_neg other
    | place | relate => rfl
  · intro declaration other
    cases declaration with
    | place parent child => exact if_neg other
    | register | relate => rfl
  · intro declaration other
    cases declaration with
    | relate source target => exact if_neg other
    | register | place => rfl

/-- It is enough to compare what is said of the identities that declarations are
about. -/
theorem iff_forall_subject :
    SaySame left right ↔
      ∀ id ∈ (left ++ right).map Declaration.subject,
        lastNode? left id = lastNode? right id ∧
          lastParent? left id = lastParent? right id ∧
          targetIds left id = targetIds right id := by
  constructor
  · intro same id _
    exact ⟨same.nodes id, same.parents id, same.targets id⟩
  · intro same
    have all (id : String) : lastNode? left id = lastNode? right id ∧
        lastParent? left id = lastParent? right id ∧
        targetIds left id = targetIds right id := by
      by_cases isSubject : id ∈ (left ++ right).map Declaration.subject
      · exact same id isSubject
      · exact of_no_subject isSubject
    exact ⟨fun id => (all id).1, fun id => (all id).2.1, fun id => (all id).2.2⟩

instance : Decidable (SaySame left right) :=
  decidable_of_iff _ iff_forall_subject.symm

theorem symm (same : SaySame left right) : SaySame right left :=
  ⟨fun id => (same.nodes id).symm, fun id => (same.parents id).symm,
    fun id => (same.targets id).symm⟩

theorem outer?_eq (same : SaySame left right) (node : Node) :
    outer? left node = outer? right node := by
  rw [outer?, outer?, same.parents, funext same.nodes]

theorem nearestService (same : SaySame left right) {steps : Nat}
    {node service : Node} (nearest : NearestService left steps node service) :
    NearestService right steps node service := by
  induction nearest with
  | itself isService => exact .itself isService
  | around noService outward _ ih =>
      rw [same.outer?_eq] at outward
      exact .around noService outward ih

theorem nearestService_iff (same : SaySame left right) {steps : Nat}
    {node service : Node} :
    NearestService left steps node service ↔
      NearestService right steps node service :=
  ⟨same.nearestService, same.symm.nearestService⟩

end SaySame

namespace Graph

/-- The bound of a graph reaches every nearest service. -/
theorem serviceAround_length_eq_some_iff {declarations : List Declaration}
    {registered : Node}
    (isLast : lastNode? declarations registered.id = some registered)
    (name : String) :
    (ofDeclarations declarations).serviceAround
        (ofDeclarations declarations).nodes.length registered = some name ↔
      ∃ steps service, NearestService declarations steps registered service ∧
        service.name = name :=
  serviceAround_eq_some_iff_of_complete
    (Nat.le_of_eq (length_nodes_ofDeclarations declarations).symm) isLast name

theorem outgoingTargets_of_unregistered {graph : Graph} {node : Node}
    (unknown : graph.node? node.id = none) (kind : NodeKind) :
    graph.toModel.outgoingTargets node kind =
      .error (Fault.unknownNode node).diagnostic := by
  have isUnknown : graph.known node = .error (.unknownNode node) := by
    rw [Graph.known, unknown]
  change (graph.outgoingTargets node kind).mapError Fault.diagnostic = _
  rw [outgoingTargets_of_unknown isUnknown]
  rfl

section

variable {left right : List Declaration} (same : SaySame left right)

include same

theorem node?_of_saySame (id : String) :
    (ofDeclarations left).node? id = (ofDeclarations right).node? id := by
  rw [node?_ofDeclarations, node?_ofDeclarations, same.nodes]

/-- Whatever the order of the identities in the two graphs is, the bound of each
reaches the nearest service. -/
theorem owningService_of_saySame (node : Node) :
    (ofDeclarations left).toModel.owningService node =
      (ofDeclarations right).toModel.owningService node := by
  have alike := node?_of_saySame same node.id
  cases found : (ofDeclarations left).node? node.id with
  | none =>
      rw [owningService_of_unknown found,
        owningService_of_unknown (alike.symm.trans found)]
  | some registered =>
      have isLast : lastNode? left registered.id = some registered := by
        rw [id_of_node? found, ← node?_ofDeclarations, found]
      have alsoLast : lastNode? right registered.id = some registered := by
        rw [← same.nodes, isLast]
      have around : (ofDeclarations left).serviceAround
            (ofDeclarations left).nodes.length registered =
          (ofDeclarations right).serviceAround
            (ofDeclarations right).nodes.length registered := by
        apply Option.ext
        intro name
        rw [serviceAround_length_eq_some_iff isLast,
          serviceAround_length_eq_some_iff alsoLast]
        simp only [same.nearestService_iff]
      rw [owningService_of_registered found,
        owningService_of_registered (alike.symm.trans found), around]

theorem outgoingTargets_of_saySame (node : Node) (kind : NodeKind) :
    (ofDeclarations left).toModel.outgoingTargets node kind =
      (ofDeclarations right).toModel.outgoingTargets node kind := by
  have alike := node?_of_saySame same node.id
  cases found : (ofDeclarations right).node? node.id with
  | none =>
      rw [outgoingTargets_of_unregistered found,
        outgoingTargets_of_unregistered (alike.trans found)]
  | some registered =>
      rw [node?_ofDeclarations] at found
      exact outgoingTargets_congr found rfl same.nodes (same.targets node.id)
        kind

theorem toModel_of_saySame :
    (ofDeclarations left).toModel = (ofDeclarations right).toModel := by
  have services := funext (owningService_of_saySame same)
  have targets := funext fun node =>
    funext (outgoingTargets_of_saySame same node)
  exact congrArg₂ Model.mk services targets

/-- Whoever declares the same of each identity in the end gets the same answers,
and so the same blocks and errors. The order of relations matters among those of
one node alone. -/
theorem answers_of_any_order :
    (∀ id, (ofDeclarations left).node? id = (ofDeclarations right).node? id) ∧
    (∀ node, (ofDeclarations left).toModel.owningService node =
      (ofDeclarations right).toModel.owningService node) ∧
    (∀ node kind, (ofDeclarations left).toModel.outgoingTargets node kind =
      (ofDeclarations right).toModel.outgoingTargets node kind) ∧
    (∀ node rules declared,
      compile node (ofDeclarations left).toModel rules declared =
        compile node (ofDeclarations right).toModel rules declared) ∧
    ∀ node configuration,
      Configuration.compile node (ofDeclarations left).toModel configuration =
        Configuration.compile node (ofDeclarations right).toModel
          configuration := by
  refine ⟨node?_of_saySame same, owningService_of_saySame same,
    outgoingTargets_of_saySame same, ?_, ?_⟩
  · intro node rules declared
    rw [toModel_of_saySame same]
  · intro node configuration
    rw [toModel_of_saySame same]

end

end Graph

namespace Sample

/-- Orders that were declared in the order of a report. -/
def tidyDeclarations : List Declaration :=
  [.register ⟨"orders", "Orders", .service⟩,
    .register ⟨"order", "Order", .aggregate⟩,
    .register ⟨"placed", "Order Placed", .event⟩, .place "orders" "order",
    .relate "order" "placed", .relate "order" "orders",
    .relate "cart" "nowhere"]

/-- The same, with its edges first and after several changes of mind. -/
def untidyDeclarations : List Declaration :=
  [.relate "cart" "nowhere", .place "placed" "order",
    .relate "order" "placed", .register ⟨"order", "Draft", .query⟩,
    .register ⟨"placed", "Placed", .command⟩, .place "orders" "order",
    .register ⟨"placed", "Order Placed", .event⟩,
    .register ⟨"orders", "Orders", .service⟩,
    .register ⟨"order", "Order", .aggregate⟩, .relate "order" "orders"]

end Sample

namespace Graph

open Sample

theorem tidy_and_untidy_answers :
    SaySame tidyDeclarations untidyDeclarations ∧
      (ofDeclarations untidyDeclarations).toModel.owningService
        ⟨"order", "", .event⟩ = .ok "Orders" ∧
      compile order (ofDeclarations untidyDeclarations).toModel
          [.always (.recordEvent "orderPlaced" (.expression ⟨"sum"⟩))] [] =
        .ok [.declareVariables [], .separator,
          .produce "Orders" "OrderPlaced" (.whole ⟨"sum"⟩)] := by
  have same : SaySame tidyDeclarations untidyDeclarations := by
    decide +kernel
  obtain ⟨-, service, -, compiled, -⟩ := answers_of_any_order same
  refine ⟨same, ?_, ?_⟩
  · rw [← service]
    decide +kernel
  · rw [← compiled]
    decide +kernel

end Graph

end AggregateRules
