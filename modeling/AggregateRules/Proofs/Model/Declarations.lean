import AggregateRules.Proofs.Model.Targets
import Mathlib.Data.List.Dedup
import Mathlib.Data.List.Induction

/-!
# Graphs from declarations

A graph is what a list of declarations makes of the empty graph. Of all that was
declared about an identity it knows what was declared last: its last node, and
the last node that it was placed inside. So it holds one node for each identity,
however often that was declared, see `length_nodes_ofDeclarations`.
-/

namespace AggregateRules

/-- What an author says about a model, in any order and as often as they like.
-/
inductive Declaration where
  | register (node : Node)
  | place (parent child : String)
  | relate (source target : String)
  deriving DecidableEq

namespace Declaration

/-- The node that a declaration registers under an identity. -/
def nodeWith? (id : String) : Declaration → Option Node
  | .register node => if node.id = id then some node else none
  | .place _ _ => none
  | .relate _ _ => none

/-- The identity that a declaration places another one inside. -/
def parentOf? (child : String) : Declaration → Option String
  | .register _ => none
  | .place parent inner => if inner = child then some parent else none
  | .relate _ _ => none

end Declaration

namespace Graph

def declare (graph : Graph) : Declaration → Graph
  | .register node => graph.addNode node
  | .place parent child => graph.placeInside parent child
  | .relate source target => graph.addRelation source target

def ofDeclarations (declarations : List Declaration) : Graph :=
  declarations.foldl declare empty

end Graph

/-- The node that was registered last under an identity. -/
def lastNode? (declarations : List Declaration) (id : String) : Option Node :=
  (declarations.filterMap (Declaration.nodeWith? id)).getLast?

/-- The identity that another one was placed inside last. -/
def lastParent? (declarations : List Declaration) (child : String) :
    Option String :=
  (declarations.filterMap (Declaration.parentOf? child)).getLast?

/-- The identities of all nodes, each once. -/
def identities (declarations : List Declaration) : List String :=
  (declarations.filterMap fun declaration =>
    match declaration with
    | .register node => some node.id
    | .place _ _ => none
    | .relate _ _ => none).dedup

section LastDeclaration

variable (declarations : List Declaration) (declaration : Declaration)

theorem lastNode?_concat (id : String) :
    lastNode? (declarations ++ [declaration]) id =
      (declaration.nodeWith? id).or (lastNode? declarations id) := by
  rw [lastNode?, List.filterMap_append, List.getLast?_append]
  cases found : declaration.nodeWith? id with
  | none => simp [found, lastNode?]
  | some node => simp [found]

theorem lastParent?_concat (child : String) :
    lastParent? (declarations ++ [declaration]) child =
      (declaration.parentOf? child).or (lastParent? declarations child) := by
  rw [lastParent?, List.filterMap_append, List.getLast?_append]
  cases found : declaration.parentOf? child with
  | none => simp [found, lastParent?]
  | some parent => simp [found]

end LastDeclaration

theorem id_of_lastNode? {declarations : List Declaration} {id : String}
    {node : Node} (last : lastNode? declarations id = some node) :
    node.id = id := by
  obtain ⟨declaration, _, registers⟩ :=
    List.mem_filterMap.mp (List.mem_of_getLast? last)
  cases declaration with
  | register other =>
      rw [Declaration.nodeWith?, Option.ite_none_right_eq_some] at registers
      obtain ⟨sameId, same⟩ := registers
      cases same
      exact sameId
  | place parent child => cases registers
  | relate source target => cases registers

theorem mem_identities_iff {declarations : List Declaration} {id : String} :
    id ∈ identities declarations ↔
      (lastNode? declarations id).isSome = true := by
  rw [identities, List.mem_dedup, List.mem_filterMap]
  constructor
  · rintro ⟨declaration, isDeclared, identified⟩
    cases declaration with
    | register node =>
        have registers :
            (Declaration.register node).nodeWith? id = some node :=
          if_pos (Option.some.inj identified)
        have found : node ∈ declarations.filterMap (Declaration.nodeWith? id) :=
          List.mem_filterMap.mpr ⟨_, isDeclared, registers⟩
        rw [lastNode?, List.getLast?_isSome]
        exact List.ne_nil_of_mem found
    | place parent child => cases identified
    | relate source target => cases identified
  · intro registered
    obtain ⟨node, last⟩ := Option.isSome_iff_exists.mp registered
    obtain ⟨declaration, isDeclared, registers⟩ :=
      List.mem_filterMap.mp (List.mem_of_getLast? last)
    refine ⟨declaration, isDeclared, ?_⟩
    cases declaration with
    | register other =>
        rw [Declaration.nodeWith?, Option.ite_none_right_eq_some] at registers
        exact congrArg some registers.1
    | place parent child => cases registers
    | relate source target => cases registers

namespace Graph

theorem ofDeclarations_concat (declarations : List Declaration)
    (declaration : Declaration) :
    ofDeclarations (declarations ++ [declaration]) =
      (ofDeclarations declarations).declare declaration := by
  rw [ofDeclarations, List.foldl_append]
  rfl

theorem node?_declare (graph : Graph) (declaration : Declaration)
    (id : String) :
    (graph.declare declaration).node? id =
      (declaration.nodeWith? id).or (graph.node? id) := by
  cases declaration with
  | register node =>
      change (graph.nodes.put node.id node).get? id = _
      rw [OrderedMap.get?_put, Declaration.nodeWith?]
      split <;> rfl
  | place parent child => rfl
  | relate source target => rfl

theorem get?_places_declare (graph : Graph) (declaration : Declaration)
    (child : String) :
    (graph.declare declaration).places.get? child =
      (declaration.parentOf? child).or (graph.places.get? child) := by
  cases declaration with
  | register node => rfl
  | place parent inner =>
      change (graph.places.put inner parent).get? child = _
      rw [OrderedMap.get?_put, Declaration.parentOf?]
      split <;> rfl
  | relate source target => rfl

/-- A graph finds the node that was registered last. -/
theorem node?_ofDeclarations (declarations : List Declaration) (id : String) :
    (ofDeclarations declarations).node? id = lastNode? declarations id := by
  induction declarations using List.reverseRecOn with
  | nil => rfl
  | append_singleton declarations declaration ih =>
      rw [ofDeclarations_concat, node?_declare, lastNode?_concat, ih]

theorem get?_places_ofDeclarations (declarations : List Declaration)
    (child : String) :
    (ofDeclarations declarations).places.get? child =
      lastParent? declarations child := by
  induction declarations using List.reverseRecOn with
  | nil => rfl
  | append_singleton declarations declaration ih =>
      rw [ofDeclarations_concat, get?_places_declare, lastParent?_concat, ih]

/-- A graph holds one node for each identity. -/
theorem length_nodes_ofDeclarations (declarations : List Declaration) :
    (ofDeclarations declarations).nodes.length =
      (identities declarations).length := by
  have held : ((ofDeclarations declarations).nodes.entries.map Prod.fst).Perm
      (identities declarations) := by
    have nodup : (identities declarations).Nodup := List.nodup_dedup _
    apply (List.perm_ext_iff_of_nodup (OrderedMap.nodup_keys _) nodup).mpr
    intro id
    rw [mem_identities_iff, ← node?_ofDeclarations, Option.isSome_iff_ne_none,
      ← not_iff_not, not_not]
    exact lookup_eq_none_iff_notMem.symm
  rw [← held.length_eq, List.length_map]
  rfl

/-- A node lies in the node that its last place names, if there is one. -/
theorem parent?_ofDeclarations (declarations : List Declaration)
    (id : String) :
    (ofDeclarations declarations).parent? id =
      (lastParent? declarations id).bind (lastNode? declarations) := by
  rw [parent?, get?_places_ofDeclarations]
  exact congrArg _ (funext (node?_ofDeclarations declarations))

end Graph

end AggregateRules
