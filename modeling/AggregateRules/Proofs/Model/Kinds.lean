import AggregateRules.Proofs.Model.Declarations
import Mathlib.Data.List.Count

/-!
# Targets by kind

The relations of a node lead to identities, and each of these must be the one of
a node. If one is missing, the first one is reported whatever kind is asked for.
Otherwise the lists of the five kinds share out the relations of the node, see
`outgoingTargets_share_relations`. The relations of other nodes have no say.
-/

namespace AggregateRules

/-- The identity that a declaration relates another one to. -/
def Declaration.targetOf? (source : String) : Declaration → Option String
  | .register _ => none
  | .place _ _ => none
  | .relate start target => if start = source then some target else none

section Targets

variable (declarations : List Declaration) (source : String)

/-- The identities that the relations of a node lead to, one for each relation
and in the order of their declaration. -/
def targetIds : List String :=
  declarations.filterMap (Declaration.targetOf? source)

/-- The first identity without a node that a relation of a node leads to. -/
def firstMissing? : Option String :=
  (targetIds declarations source).find? fun id =>
    (lastNode? declarations id).isNone

/-- The nodes that the relations of a node lead to. -/
def targetNodes : List Node :=
  (targetIds declarations source).filterMap (lastNode? declarations)

variable {declarations source}

/-- Where no identity is missing, there is one node for each relation. -/
theorem map_some_targetNodes
    (complete : firstMissing? declarations source = none) :
    (targetNodes declarations source).map some =
      (targetIds declarations source).map (lastNode? declarations) := by
  rw [firstMissing?] at complete
  rw [targetNodes]
  generalize targetIds declarations source = ids at complete ⊢
  induction ids with
  | nil => rfl
  | cons id rest ih =>
      cases found : lastNode? declarations id with
      | none => simp [found] at complete
      | some node =>
          rw [List.find?_cons_of_neg (by simp [found])] at complete
          rw [List.filterMap_cons_some found, List.map_cons, List.map_cons,
            found, ih complete]

end Targets

/-- Each node is in the list of its kind. -/
theorem flatMap_filter_kind_perm (nodes : List Node) :
    (NodeKind.all.flatMap fun kind =>
      nodes.filter fun node => node.kind = kind).Perm nodes := by
  rw [List.perm_iff_count]
  intro node
  have counted (kind : NodeKind) :
      (nodes.filter fun node => node.kind = kind).count node =
        if node.kind = kind then nodes.count node else 0 := by
    split
    · next ofKind => exact List.count_filter (by simpa using ofKind)
    · next otherKind =>
        apply List.count_eq_zero_of_not_mem
        simp [otherKind]
  rw [List.count_flatMap]
  simp only [Function.comp_def, counted]
  cases node.kind <;> simp [NodeKind.all]

/-- The identities that relations of a list lead to from one identity. -/
def relatedIds (source : String) (relations : List (String × String)) :
    List String :=
  (relations.filter fun relation => relation.1 = source).map Prod.snd

namespace Graph

/-- All targets of a node are found, or the first one that is missing is
reported. -/
theorem targetsOf_eq (graph : Graph) (source : Node)
    (relations : List (String × String)) :
    graph.targetsOf source relations =
      match (relatedIds source.id relations).find? fun id =>
        (graph.node? id).isNone with
      | some missing => .error (.danglingRelation source missing)
      | none =>
          .ok ((relatedIds source.id relations).filterMap graph.node?) := by
  induction relations with
  | nil => rfl
  | cons relation rest ih =>
      obtain ⟨start, target⟩ := relation
      rw [targetsOf]
      by_cases here : start = source.id
      · have shape : relatedIds source.id ((start, target) :: rest) =
            target :: relatedIds source.id rest := by
          simp [relatedIds, here]
        rw [if_pos here, shape, List.find?_cons, List.filterMap_cons]
        cases graph.node? target with
        | none => rfl
        | some node =>
            rw [ih, Option.isNone_some]
            cases List.find? _ _ with
            | none => rfl
            | some missing => rfl
      · have shape : relatedIds source.id ((start, target) :: rest) =
            relatedIds source.id rest := by
          simp [relatedIds, here]
        rw [if_neg here, shape, ih]

theorem relatedIds_ofDeclarations (declarations : List Declaration)
    (source : String) :
    relatedIds source (ofDeclarations declarations).relations =
      targetIds declarations source := by
  induction declarations using List.reverseRecOn with
  | nil => rfl
  | append_singleton declarations declaration ih =>
      rw [ofDeclarations_concat, targetIds, List.filterMap_append,
        ← targetIds, ← ih]
      cases declaration with
      | register node => exact (List.append_nil _).symm
      | place parent child => exact (List.append_nil _).symm
      | relate start target =>
          change relatedIds source (_ ++ [(start, target)]) = _
          rw [relatedIds, List.filter_append, List.map_append]
          by_cases here : start = source <;>
            simp [relatedIds, Declaration.targetOf?, here]

/-- What a graph answers about the targets of a node that was registered. -/
theorem outgoingTargets_ofDeclarations {declarations : List Declaration}
    {node registered : Node}
    (isRegistered : lastNode? declarations node.id = some registered)
    (kind : NodeKind) :
    (ofDeclarations declarations).toModel.outgoingTargets node kind =
      match firstMissing? declarations node.id with
      | some missing =>
          .error (Fault.danglingRelation registered missing).diagnostic
      | none =>
          .ok ((targetNodes declarations node.id).filter fun target =>
            target.kind = kind) := by
  have known : (ofDeclarations declarations).known node = .ok registered := by
    rw [Graph.known, node?_ofDeclarations, isRegistered]
  have found : (ofDeclarations declarations).targetsOf registered
      (ofDeclarations declarations).relations =
        match firstMissing? declarations node.id with
        | some missing => .error (.danglingRelation registered missing)
        | none => .ok (targetNodes declarations node.id) := by
    rw [targetsOf_eq, id_of_lastNode? isRegistered, relatedIds_ofDeclarations,
      funext (node?_ofDeclarations declarations)]
    rfl
  change (Graph.outgoingTargets _ node kind).mapError Fault.diagnostic = _
  rw [outgoingTargets_of_known known, found]
  cases firstMissing? declarations node.id with
  | none => rfl
  | some missing => rfl

/-- Only the last nodes and the relations of the node itself matter, and of the
node that is asked about its identity. -/
theorem outgoingTargets_congr {left right : List Declaration}
    {node other registered : Node}
    (isRegistered : lastNode? left node.id = some registered)
    (sameId : other.id = node.id)
    (sameNodes : ∀ id, lastNode? right id = lastNode? left id)
    (sameTargets : targetIds right node.id = targetIds left node.id)
    (kind : NodeKind) :
    (ofDeclarations right).toModel.outgoingTargets other kind =
      (ofDeclarations left).toModel.outgoingTargets node kind := by
  have alsoRegistered : lastNode? right other.id = some registered := by
    rw [sameId, sameNodes, isRegistered]
  rw [outgoingTargets_ofDeclarations isRegistered,
    outgoingTargets_ofDeclarations alsoRegistered, sameId, firstMissing?,
    firstMissing?, targetNodes, targetNodes, funext sameNodes, sameTargets]

/-- A relation of a node that leads nowhere is reported for each kind, the first
one of them. Otherwise each kind has its list of targets, in the order of the
relations; these lists share out the relations of the node, one target for each.
Nothing depends on the relations of other nodes, nor on what is said of the node
besides its identity. -/
theorem outgoingTargets_share_relations {declarations : List Declaration}
    {node registered : Node}
    (isRegistered : lastNode? declarations node.id = some registered) :
    let targets := targetNodes declarations node.id
    let ofKind (kind : NodeKind) := targets.filter fun target =>
      target.kind = kind
    (∀ missing, firstMissing? declarations node.id = some missing →
      ∀ kind, (ofDeclarations declarations).toModel.outgoingTargets node kind =
        .error (.error
          ("relation from " ++ registered.describe ++
            " points to unknown node '" ++ missing ++ "'")
          "remove the dangling relation from the model")) ∧
    (firstMissing? declarations node.id = none →
      (∀ kind, (ofDeclarations declarations).toModel.outgoingTargets node kind =
        .ok (ofKind kind)) ∧
      targets.map some =
        (targetIds declarations node.id).map (lastNode? declarations) ∧
      (NodeKind.all.flatMap ofKind).Perm targets) ∧
    ∀ others other, other.id = node.id →
      (∀ id, lastNode? others id = lastNode? declarations id) →
      targetIds others node.id = targetIds declarations node.id →
      ∀ kind, (ofDeclarations others).toModel.outgoingTargets other kind =
        (ofDeclarations declarations).toModel.outgoingTargets node kind := by
  have answer := outgoingTargets_ofDeclarations isRegistered
  refine ⟨?_, ?_, ?_⟩
  · intro missing isMissing kind
    rw [answer, isMissing]
    rfl
  · intro complete
    refine ⟨?_, map_some_targetNodes complete, flatMap_filter_kind_perm _⟩
    intro kind
    rw [answer, complete]
  · intro others other sameId sameNodes sameTargets kind
    exact outgoingTargets_congr isRegistered sameId sameNodes sameTargets kind

end Graph

/-- A parcel that is sent twice by what was a command at first, and a letter
that leads nowhere. -/
def Sample.parcelDeclarations : List Declaration :=
  [.relate "parcel" "sent", .register ⟨"sent", "Send", .command⟩,
    .relate "parcel" "track", .register ⟨"parcel", "Parcel", .aggregate⟩,
    .relate "letter" "parcel", .relate "letter" "nowhere",
    .relate "parcel" "lost", .register ⟨"lost", "Parcel Lost", .event⟩,
    .register ⟨"sent", "Parcel Sent", .event⟩, .relate "letter" "attic",
    .register ⟨"track", "Track", .query⟩, .relate "parcel" "sent",
    .register ⟨"letter", "Letter", .aggregate⟩]

namespace Graph

open Sample

theorem parcel_and_letter_targets :
    (ofDeclarations parcelDeclarations).toModel.outgoingTargets
        ⟨"parcel", "", .command⟩ .event =
      .ok [⟨"sent", "Parcel Sent", .event⟩, ⟨"lost", "Parcel Lost", .event⟩,
        ⟨"sent", "Parcel Sent", .event⟩] ∧
      (ofDeclarations parcelDeclarations).toModel.outgoingTargets
        ⟨"parcel", "", .command⟩ .service = .ok [] ∧
      ∀ kind, (ofDeclarations parcelDeclarations).toModel.outgoingTargets
        ⟨"letter", "", .event⟩ kind =
          .error (.error
            "relation from aggregate 'Letter' points to unknown node 'nowhere'"
            "remove the dangling relation from the model") := by
  have parcel := @outgoingTargets_share_relations parcelDeclarations
    ⟨"parcel", "", .command⟩ ⟨"parcel", "Parcel", .aggregate⟩
    (by decide +kernel)
  have letter := @outgoingTargets_share_relations parcelDeclarations
    ⟨"letter", "", .event⟩ ⟨"letter", "Letter", .aggregate⟩ (by decide +kernel)
  have answers := (parcel.2.1 (by decide +kernel)).1
  refine ⟨?_, ?_, letter.1 "nowhere" (by decide +kernel)⟩
  · rw [answers]
    decide +kernel
  · rw [answers]
    decide +kernel

end Graph

end AggregateRules
