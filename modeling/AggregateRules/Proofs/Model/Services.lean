import AggregateRules.Proofs.Model.Declarations
import Mathlib.Data.List.Perm.Subperm

/-!
# The service of a node

The service of a node is the nearest one on the way outward from the node. A
graph looks at no more nodes than there are identities, and that is enough: the
nodes up to the nearest service differ in their distance to it, so no identity
occurs twice among them, even where nodes lie in a circle.
-/

namespace AggregateRules

section Outward

variable (declarations : List Declaration)

/-- The node that a node lies in. -/
def outer? (node : Node) : Option Node :=
  (lastParent? declarations node.id).bind (lastNode? declarations)

/-- Whether a node is met on the way outward from another one, which is met
first. -/
inductive Encloses : Node → Node → Prop where
  | itself {node : Node} : Encloses node node
  | around {node outer enclosing : Node} :
      outer? declarations node = some outer →
      Encloses outer enclosing →
      Encloses node enclosing

/-- Whether a service is the first one on the way outward from a node, a number
of steps away. -/
inductive NearestService : Nat → Node → Node → Prop where
  | itself {node : Node} :
      node.kind = .service → NearestService 0 node node
  | around {steps : Nat} {node outer service : Node} :
      node.kind ≠ .service →
      outer? declarations node = some outer →
      NearestService steps outer service →
      NearestService (steps + 1) node service

end Outward

variable {declarations : List Declaration}

theorem NearestService.isService {steps : Nat} {node service : Node}
    (nearest : NearestService declarations steps node service) :
    service.kind = .service := by
  induction nearest with
  | itself isService => exact isService
  | around _ _ _ ih => exact ih

/-- There is one way outward, so there is at most one nearest service. -/
theorem NearestService.unique {steps steps' : Nat}
    {node service service' : Node}
    (nearest : NearestService declarations steps node service)
    (nearest' : NearestService declarations steps' node service') :
    steps = steps' ∧ service = service' := by
  induction nearest generalizing steps' with
  | itself isService =>
      cases nearest' with
      | itself => exact ⟨rfl, rfl⟩
      | around noService _ _ => exact absurd isService noService
  | around noService outward _ ih =>
      cases nearest' with
      | itself isService => exact absurd isService noService
      | around _ outward' nearest' =>
          cases outward.symm.trans outward'
          obtain ⟨sameSteps, sameService⟩ := ih nearest'
          exact ⟨congrArg (· + 1) sameSteps, sameService⟩

/-- Where a service is met at all, one is met first. -/
theorem exists_nearestService {node service : Node}
    (encloses : Encloses declarations node service)
    (isService : service.kind = .service) :
    ∃ steps nearest, NearestService declarations steps node nearest := by
  induction encloses with
  | itself => exact ⟨0, _, .itself isService⟩
  | @around node outer _ outward _ ih =>
      by_cases here : node.kind = .service
      · exact ⟨0, node, .itself here⟩
      · obtain ⟨steps, nearest, isNearest⟩ := ih isService
        exact ⟨steps + 1, nearest, .around here outward isNearest⟩

theorem NearestService.encloses {steps : Nat} {node service : Node}
    (nearest : NearestService declarations steps node service) :
    Encloses declarations node service := by
  induction nearest with
  | itself => exact .itself
  | around _ outward _ ih => exact .around outward ih

theorem lastNode?_outer {node outer : Node}
    (outward : outer? declarations node = some outer) :
    lastNode? declarations outer.id = some outer := by
  obtain ⟨parent, _, last⟩ := Option.bind_eq_some_iff.mp outward
  rw [id_of_lastNode? last, last]

/-- The nodes up to the nearest service have different identities. -/
theorem NearestService.exists_visited {steps : Nat} {node service : Node}
    (nearest : NearestService declarations steps node service)
    (registered : lastNode? declarations node.id = some node) :
    ∃ visited : List String, visited.length = steps + 1 ∧ visited.Nodup ∧
      ∀ id ∈ visited, ∃ near distance, distance ≤ steps ∧
        lastNode? declarations id = some near ∧
        NearestService declarations distance near service := by
  induction nearest with
  | @itself node isService =>
      refine ⟨[node.id], rfl, List.nodup_singleton node.id, ?_⟩
      rw [List.forall_mem_singleton]
      exact ⟨node, 0, Nat.le_refl 0, registered, .itself isService⟩
  | @around steps node outer service noService outward further ih =>
      obtain ⟨visited, count, different, near⟩ := ih (lastNode?_outer outward)
      have here := NearestService.around noService outward further
      refine ⟨node.id :: visited, congrArg (· + 1) count, ?_, ?_⟩
      · refine List.nodup_cons.mpr ⟨fun again => ?_, different⟩
        -- The node is farther from its service than all nodes around it.
        obtain ⟨other, distance, bound, sameNode, isNear⟩ := near _ again
        cases registered.symm.trans sameNode
        have sameDistance := (here.unique isNear).1
        omega
      · rw [List.forall_mem_cons]
        refine ⟨⟨node, steps + 1, Nat.le_refl _, registered, here⟩, ?_⟩
        intro id isVisited
        obtain ⟨other, distance, bound, known⟩ := near id isVisited
        exact ⟨other, distance, Nat.le_succ_of_le bound, known⟩

/-- A service is nearer than there are identities. -/
theorem NearestService.steps_lt {steps : Nat} {node service : Node}
    (nearest : NearestService declarations steps node service)
    (registered : lastNode? declarations node.id = some node) :
    steps < (identities declarations).length := by
  obtain ⟨visited, count, different, near⟩ := nearest.exists_visited registered
  have within : visited ⊆ identities declarations := by
    intro id isVisited
    obtain ⟨other, distance, _, known, _⟩ := near id isVisited
    rw [mem_identities_iff, known]
    rfl
  have enough := (List.subperm_of_subset different within).length_le
  omega

namespace Graph

/-- A bounded walk finds the services that are nearer than its bound. -/
theorem serviceAround_eq_some_iff {bound : Nat} {node : Node} {name : String} :
    (ofDeclarations declarations).serviceAround bound node = some name ↔
      ∃ steps service, steps < bound ∧
        NearestService declarations steps node service ∧
        service.name = name := by
  induction bound generalizing node with
  | zero => simp [serviceAround]
  | succ bound ih =>
      rw [serviceAround]
      split
      · next isService =>
          rw [Option.some.injEq]
          constructor
          · intro sameName
            exact ⟨0, node, Nat.zero_lt_succ bound, .itself isService, sameName⟩
          · rintro ⟨steps, service, _, nearest, sameName⟩
            rw [← sameName,
              ((NearestService.itself isService).unique nearest).2]
      · next noService =>
          rw [parent?_ofDeclarations]
          change (outer? declarations node).bind _ = some name ↔ _
          rw [Option.bind_eq_some_iff]
          constructor
          · rintro ⟨outer, outward, found⟩
            obtain ⟨steps, service, within, nearest, sameName⟩ := ih.mp found
            exact ⟨steps + 1, service, Nat.succ_lt_succ within,
              .around noService outward nearest, sameName⟩
          · rintro ⟨steps, service, within, nearest, sameName⟩
            cases nearest with
            | itself isService => exact absurd isService noService
            | around _ outward nearest =>
                refine ⟨_, outward, ih.mpr ?_⟩
                exact ⟨_, service, Nat.lt_of_succ_lt_succ within, nearest,
                  sameName⟩

section Complete

variable {bound : Nat} (enough : (identities declarations).length ≤ bound)
  {node : Node} (registered : lastNode? declarations node.id = some node)

include enough registered

/-- A bound that counts all identities finds every nearest service. -/
theorem serviceAround_eq_some_iff_of_complete (name : String) :
    (ofDeclarations declarations).serviceAround bound node = some name ↔
      ∃ steps service, NearestService declarations steps node service ∧
        service.name = name := by
  rw [serviceAround_eq_some_iff]
  constructor
  · rintro ⟨steps, service, _, nearest⟩
    exact ⟨steps, service, nearest⟩
  · rintro ⟨steps, service, nearest, sameName⟩
    have within := nearest.steps_lt registered
    exact ⟨steps, service, Nat.lt_of_lt_of_le within enough, nearest, sameName⟩

theorem serviceAround_eq_none_iff_of_complete :
    (ofDeclarations declarations).serviceAround bound node = none ↔
      ∀ enclosing, Encloses declarations node enclosing →
        enclosing.kind ≠ .service := by
  have found := serviceAround_eq_some_iff_of_complete enough registered
  constructor
  · intro noService enclosing encloses isService
    obtain ⟨steps, service, nearest⟩ :=
      exists_nearestService encloses isService
    have isFound := (found service.name).mpr ⟨steps, service, nearest, rfl⟩
    cases noService.symm.trans isFound
  · intro noService
    rw [Option.eq_none_iff_forall_ne_some]
    intro name isFound
    obtain ⟨steps, service, nearest, _⟩ := (found name).mp isFound
    exact noService service nearest.encloses nearest.isService

end Complete

theorem owningService_of_unknown {graph : Graph} {node : Node}
    (unknown : graph.node? node.id = none) :
    graph.toModel.owningService node =
      .error (Fault.unknownNode node).diagnostic := by
  have fails : graph.owningService node = .error (.unknownNode node) := by
    rw [Graph.owningService, Graph.known, unknown]
    rfl
  change (graph.owningService node).mapError Fault.diagnostic = _
  rw [fails]
  rfl

theorem owningService_of_registered {graph : Graph} {node registered : Node}
    (isRegistered : graph.node? node.id = some registered) :
    graph.toModel.owningService node =
      (graph.serviceAround graph.nodes.length registered).elim
        (.error (Fault.outsideServices node).diagnostic) .ok := by
  have known : graph.known node = .ok registered := by
    rw [Graph.known, isRegistered]
  change (graph.owningService node).mapError Fault.diagnostic = _
  cases around : graph.serviceAround graph.nodes.length registered with
  | none =>
      have fails : graph.owningService node =
          .error (.outsideServices node) := by
        simp [Graph.owningService, known, around, bind, Except.bind]
      rw [fails]
      rfl
  | some name =>
      have answers : graph.owningService node = .ok name := by
        simp [Graph.owningService, known, around, bind, Except.bind]
      rw [answers]
      rfl

/-- The service of a node that was registered is the nearest one on the way
outward from it. For any other node, and where the way outward meets no service,
a diagnostic says so. A graph takes as many steps as there are identities, which
are enough to find the service, and more steps make no difference. -/
theorem owningService_is_nearest (declarations : List Declaration)
    (node : Node) :
    let graph := ofDeclarations declarations
    (lastNode? declarations node.id = none →
      graph.toModel.owningService node =
        .error (Fault.unknownNode node).diagnostic) ∧
    graph.nodes.length = (identities declarations).length ∧
    ∀ registered, lastNode? declarations node.id = some registered →
      (∀ name, graph.toModel.owningService node = .ok name ↔
        ∃ steps service,
          NearestService declarations steps registered service ∧
            service.name = name) ∧
      (graph.toModel.owningService node =
          .error (Fault.outsideServices node).diagnostic ↔
        ∀ enclosing, Encloses declarations registered enclosing →
          enclosing.kind ≠ .service) ∧
      ∀ bound, (identities declarations).length ≤ bound →
        graph.serviceAround bound registered =
          graph.serviceAround graph.nodes.length registered := by
  intro graph
  have count : graph.nodes.length = (identities declarations).length :=
    length_nodes_ofDeclarations declarations
  refine ⟨?_, count, ?_⟩
  · intro unknown
    rw [← node?_ofDeclarations] at unknown
    exact owningService_of_unknown unknown
  · intro registered isLast
    have ownId : lastNode? declarations registered.id = some registered := by
      rw [id_of_lastNode? isLast]
      exact isLast
    have enough := Nat.le_of_eq count.symm
    have found := serviceAround_eq_some_iff_of_complete enough ownId
    have notFound := serviceAround_eq_none_iff_of_complete enough ownId
    have isRegistered : graph.node? node.id = some registered :=
      (node?_ofDeclarations declarations node.id).trans isLast
    rw [owningService_of_registered isRegistered]
    refine ⟨fun name => ?_, ?_, fun bound further => ?_⟩
    · rw [← found]
      cases graph.serviceAround graph.nodes.length registered with
      | none => simp
      | some service => simp
    · rw [← notFound]
      cases graph.serviceAround graph.nodes.length registered with
      | none => simp
      | some service => simp
    · apply Option.ext
      intro name
      rw [found, serviceAround_eq_some_iff_of_complete further ownId]

end Graph

/-- A shop that was declared a service first and an aggregate of a mall later,
and two aggregates that lie in each other. -/
def Sample.mallDeclarations : List Declaration :=
  [.place "shop" "basket", .register ⟨"shop", "Shop", .service⟩,
    .place "ring" "shop", .register ⟨"basket", "Basket", .aggregate⟩,
    .place "mall" "shop", .register ⟨"mall", "Shopping Mall", .service⟩,
    .register ⟨"shop", "Shop", .aggregate⟩, .relate "basket" "nowhere",
    .register ⟨"ring", "Ring", .aggregate⟩, .place "ring" "chain",
    .register ⟨"chain", "Chain", .aggregate⟩, .place "chain" "ring"]

namespace Graph

open Sample

/-- The basket lies in a shop that is no service any more, so it belongs to the
mall. Who goes outward from the ring meets the chain and the ring forever. The
shop was declared twice, but counts as one node. -/
theorem owningService_is_nearest_in_mall :
    (ofDeclarations mallDeclarations).nodes.length = 5 ∧
      (ofDeclarations mallDeclarations).toModel.owningService
        ⟨"basket", "", .event⟩ = .ok "Shopping Mall" ∧
      (∀ enclosing,
        Encloses mallDeclarations ⟨"ring", "Ring", .aggregate⟩ enclosing →
          enclosing.kind ≠ .service) ∧
      lastNode? mallDeclarations "nowhere" = none ∧
      (ofDeclarations mallDeclarations).toModel.owningService
        ⟨"nowhere", "Attic", .aggregate⟩ =
          .error (.error
            "aggregate 'Attic' (nowhere) is not part of the model"
            "the node may have been deleted from the model") := by
  have basket := (owningService_is_nearest mallDeclarations
    ⟨"basket", "", .event⟩).2.2 ⟨"basket", "Basket", .aggregate⟩
      (by decide +kernel)
  have ring := (owningService_is_nearest mallDeclarations
    ⟨"ring", "", .event⟩).2.2 ⟨"ring", "Ring", .aggregate⟩ (by decide +kernel)
  have nowhere := owningService_is_nearest mallDeclarations
    ⟨"nowhere", "Attic", .aggregate⟩
  have mall : NearestService mallDeclarations 0
      ⟨"mall", "Shopping Mall", .service⟩
      ⟨"mall", "Shopping Mall", .service⟩ := .itself rfl
  have shop : NearestService mallDeclarations 1 ⟨"shop", "Shop", .aggregate⟩
      ⟨"mall", "Shopping Mall", .service⟩ :=
    .around (by decide) (by decide +kernel) mall
  have nearest : NearestService mallDeclarations 2
      ⟨"basket", "Basket", .aggregate⟩ ⟨"mall", "Shopping Mall", .service⟩ :=
    .around (by decide) (by decide +kernel) shop
  refine ⟨?_, (basket.1 _).mpr ⟨2, _, nearest, rfl⟩,
    ring.2.1.mp (by decide +kernel), by decide +kernel, ?_⟩
  · rw [nowhere.2.1]
    decide +kernel
  · exact nowhere.1 (by decide +kernel)

end Graph

end AggregateRules
