import AggregateRules.Execution.Block
import AggregateRules.Proofs.Compilation.Production

/-!
# Runs by the outcomes of conditions

Which events a block hands out depends on nothing but the outcomes of its
conditions. Here a block runs on a list of outcomes, one for each evaluation of
a condition.

Each run hands out some of the produced events of the block and keeps their
order. In a compiled block, each place at which an event is produced is reached
by some run, so a rule that stops never cuts off an event for good, see
`produced_events_are_yielded`.
-/

namespace AggregateRules

/-- What running on some outcomes gives: the events that are handed out, each
with its place among the produced events of the text, whether the behavior goes
on, and the outcomes that are left. -/
structure Play where
  yielded : List (String × Nat)
  flow : Flow
  outcomes : List Bool

/-- Goes on with the outcomes that are left unless the behavior is left. -/
def Play.followedBy (first : Play) (next : List Bool → Play) : Play :=
  match first.flow with
  | .next =>
      { next first.outcomes with
        yielded := first.yielded ++ (next first.outcomes).yielded }
  | .leave => first

mutual

/-- Runs a statement in front of which the text produces as many events as
`place` tells. An outcome is whether the expression of a condition is true; a
missing one is false. -/
def Statement.play (place : Nat) (outcomes : List Bool) : Statement → Play
  | .branch condition body =>
      if outcomes.headD false != condition.negated then
        Block.play place outcomes.tail body
      else ⟨[], .next, outcomes.tail⟩
  | .scope body => Block.play place outcomes body
  | .produce _ event _ => ⟨[(event, place)], .next, outcomes⟩
  | .finish => ⟨[], .leave, outcomes⟩
  | .declareVariables _ | .separator => ⟨[], .next, outcomes⟩

def Block.play (place : Nat) (outcomes : List Bool) : List Statement → Play
  | [] => ⟨[], .next, outcomes⟩
  | statement :: rest =>
      (statement.play place outcomes).followedBy fun left =>
        Block.play (place + statement.producedEvents.length) left rest

end

theorem Play.yielded_followedBy_subset (first : Play)
    (next : List Bool → Play) :
    first.yielded ⊆ (first.followedBy next).yielded := by
  unfold followedBy
  split
  · exact List.subset_append_left _ _
  · exact List.Subset.refl _

mutual

theorem Statement.yielded_play_sublist (place : Nat) (outcomes : List Bool)
    (statement : Statement) :
    (statement.play place outcomes).yielded.Sublist
      (statement.producedEvents.zipIdx place) := by
  cases statement with
  | branch condition body =>
      rw [Statement.play]
      split
      · exact Block.yielded_play_sublist place outcomes.tail body
      · exact List.nil_sublist _
  | scope body => exact Block.yielded_play_sublist place outcomes body
  | produce service event payload => exact List.Sublist.refl _
  | finish | declareVariables | separator => exact List.nil_sublist _

theorem Block.yielded_play_sublist (place : Nat) (outcomes : List Bool)
    (block : List Statement) :
    (Block.play place outcomes block).yielded.Sublist
      ((Block.producedEvents block).zipIdx place) := by
  cases block with
  | nil => exact List.nil_sublist _
  | cons statement rest =>
      have first := Statement.yielded_play_sublist place outcomes statement
      have others := Block.yielded_play_sublist
        (place + statement.producedEvents.length)
        (statement.play place outcomes).outcomes rest
      rw [Block.play, Block.producedEvents, List.zipIdx_append]
      unfold Play.followedBy
      split
      · exact first.append others
      · exact first.trans (List.sublist_append_left _ _)

end

/-- Some outcomes lead through a run to its end, and no further one is needed.
-/
def Passes (run : List Bool → Play) : Prop :=
  ∃ outcomes, ∀ rest,
    (run (outcomes ++ rest)).flow = .next ∧
      (run (outcomes ++ rest)).outcomes = rest

/-- Some outcomes make a run hand out an event at its place. -/
def Reaches (run : List Bool → Play) (occurrence : String × Nat) : Prop :=
  ∃ outcomes, ∀ rest, occurrence ∈ (run (outcomes ++ rest)).yielded

theorem Passes.followedBy {first second : List Bool → Play}
    (firstPasses : Passes first) (secondPasses : Passes second) :
    Passes fun outcomes => (first outcomes).followedBy second := by
  obtain ⟨firstOutcomes, through⟩ := firstPasses
  obtain ⟨secondOutcomes, throughSecond⟩ := secondPasses
  refine ⟨firstOutcomes ++ secondOutcomes, ?_⟩
  intro rest
  obtain ⟨goesOn, left⟩ := through (secondOutcomes ++ rest)
  rw [List.append_assoc]
  simp only [Play.followedBy, goesOn, left]
  exact throughSecond rest

theorem Reaches.followedBy {first : List Bool → Play}
    {occurrence : String × Nat} (reached : Reaches first occurrence)
    (second : List Bool → Play) :
    Reaches (fun outcomes => (first outcomes).followedBy second)
      occurrence := by
  obtain ⟨outcomes, handedOut⟩ := reached
  refine ⟨outcomes, ?_⟩
  intro rest
  exact Play.yielded_followedBy_subset _ _ (handedOut rest)

theorem Passes.reaches_followedBy {first second : List Bool → Play}
    {occurrence : String × Nat} (passes : Passes first)
    (reached : Reaches second occurrence) :
    Reaches (fun outcomes => (first outcomes).followedBy second)
      occurrence := by
  obtain ⟨firstOutcomes, through⟩ := passes
  obtain ⟨secondOutcomes, handedOut⟩ := reached
  refine ⟨firstOutcomes ++ secondOutcomes, ?_⟩
  intro rest
  obtain ⟨goesOn, left⟩ := through (secondOutcomes ++ rest)
  rw [List.append_assoc]
  simp only [Play.followedBy, goesOn, left]
  exact List.mem_append_right _ (handedOut rest)

theorem passes_of_next {run : List Bool → Play} {yielded : List (String × Nat)}
    (runs : ∀ outcomes, run outcomes = ⟨yielded, .next, outcomes⟩) :
    Passes run := by
  refine ⟨[], ?_⟩
  intro rest
  rw [List.nil_append, runs]
  exact ⟨rfl, rfl⟩

/-- A condition that does not hold leads past its body. -/
theorem passes_branch (condition : Condition) (body : List Statement)
    (place : Nat) :
    Passes fun outcomes =>
      (Statement.branch condition body).play place outcomes := by
  refine ⟨[condition.negated], ?_⟩
  intro rest
  simp [Statement.play]

/-- A condition that holds leads into its body. -/
theorem Reaches.branch {body : List Statement} {place : Nat}
    {occurrence : String × Nat}
    (reached : Reaches (fun outcomes => Block.play place outcomes body)
      occurrence) (condition : Condition) :
    Reaches (fun outcomes =>
      (Statement.branch condition body).play place outcomes) occurrence := by
  obtain ⟨outcomes, handedOut⟩ := reached
  refine ⟨(!condition.negated) :: outcomes, ?_⟩
  intro rest
  simpa [Statement.play] using handedOut rest

theorem Block.play_separated_cons (place : Nat) (outcomes : List Bool)
    (first : Statement) (rest : List Statement) :
    Block.play place outcomes (Compilation.separated (first :: rest)) =
      (first.play place outcomes).followedBy fun left =>
        Block.play (place + first.producedEvents.length) left
          (Compilation.separated rest) := by
  cases rest with
  | nil => rfl
  | cons second others =>
      change (first.play place outcomes).followedBy (fun left =>
        Block.play (place + first.producedEvents.length) left
          (.separator :: Compilation.separated (second :: others))) = _
      simp [Block.play, Statement.play, Statement.producedEvents,
        Play.followedBy]

theorem Block.producedEvents_separated_cons (first : Statement)
    (rest : List Statement) :
    Block.producedEvents (Compilation.separated (first :: rest)) =
      first.producedEvents ++
        Block.producedEvents (Compilation.separated rest) := by
  cases rest with
  | nil => rfl
  | cons second others => rfl

mutual

/-- A rule can always be passed: only inside a condition is the behavior left.
-/
theorem Rule.passes_generated (service : String) (place : Nat) (rule : Rule) :
    Passes fun outcomes => (rule.generated service).play place outcomes := by
  cases rule with
  | always action => exact Action.passes_generated service place action
  | condition condition action stop =>
      exact passes_branch condition _ place

theorem Action.passes_generated (service : String) (place : Nat)
    (action : Action) :
    Passes fun outcomes => (action.generated service).play place outcomes := by
  cases action with
  | recordEvent event mapping => exact passes_of_next fun outcomes => rfl
  | executeRules rules => exact Rule.passes_generatedList service place rules

theorem Rule.passes_generatedList (service : String) (place : Nat)
    (rules : List Rule) :
    Passes fun outcomes =>
      Block.play place outcomes
        (Compilation.separated (Rule.generatedList service rules)) := by
  cases rules with
  | nil => exact passes_of_next fun outcomes => rfl
  | cons rule rest =>
      simp only [Rule.generatedList, Block.play_separated_cons]
      exact (Rule.passes_generated service place rule).followedBy
        (Rule.passes_generatedList service _ rest)

end

mutual

theorem Rule.reaches_generated (service : String) (place : Nat) (rule : Rule)
    {occurrence : String × Nat}
    (produced : occurrence ∈
      (rule.generated service).producedEvents.zipIdx place) :
    Reaches (fun outcomes => (rule.generated service).play place outcomes)
      occurrence := by
  cases rule with
  | always action =>
      exact Action.reaches_generated service place action produced
  | condition condition action stop =>
      apply Reaches.branch
      have acted : occurrence ∈
          (action.generated service).producedEvents.zipIdx place := by
        cases stop with
        | false =>
            simpa [Rule.generated, Statement.producedEvents,
              Block.producedEvents] using produced
        | true =>
            simpa [Rule.generated, Statement.producedEvents,
              Block.producedEvents] using produced
      have reached := Action.reaches_generated service place action acted
      -- The statement that leaves the behavior stands behind the action.
      cases stop with
      | false => exact reached.followedBy _
      | true => exact reached.followedBy _

theorem Action.reaches_generated (service : String) (place : Nat)
    (action : Action) {occurrence : String × Nat}
    (produced : occurrence ∈
      (action.generated service).producedEvents.zipIdx place) :
    Reaches (fun outcomes => (action.generated service).play place outcomes)
      occurrence := by
  cases action with
  | recordEvent event mapping => exact ⟨[], fun rest => produced⟩
  | executeRules rules =>
      exact Rule.reaches_generatedList service place rules produced

theorem Rule.reaches_generatedList (service : String) (place : Nat)
    (rules : List Rule) {occurrence : String × Nat}
    (produced : occurrence ∈ (Block.producedEvents
      (Compilation.separated (Rule.generatedList service rules))).zipIdx
        place) :
    Reaches (fun outcomes =>
      Block.play place outcomes
        (Compilation.separated (Rule.generatedList service rules)))
      occurrence := by
  cases rules with
  | nil => cases produced
  | cons rule rest =>
      rw [Rule.generatedList, Block.producedEvents_separated_cons,
        List.zipIdx_append, List.mem_append] at produced
      simp only [Rule.generatedList, Block.play_separated_cons]
      cases produced with
      | inl first =>
          exact (Rule.reaches_generated service place rule first).followedBy _
      | inr later =>
          exact (Rule.passes_generated service place rule).reaches_followedBy
            (Rule.reaches_generatedList service _ rest later)

end

/-- The variables of a behavior do not ask for an outcome. -/
theorem Block.play_generatedBlock (place : Nat) (outcomes : List Bool)
    (service : String) (rules : List Rule) (declared : List Variable) :
    Block.play place outcomes (generatedBlock service rules declared) =
      Block.play place outcomes
        (Compilation.separated (Rule.generatedList service rules)) := by
  simp [generatedBlock, Compilation.declareVariables, Block.play,
    Statement.play, Statement.producedEvents, Play.followedBy]

/-- Each run of a block hands out some of its produced events, each at its place
and in their order. In a compiled block, each place is reached by some run. -/
theorem produced_events_are_yielded :
    (∀ (block : Block) (outcomes : List Bool),
      (Block.play 0 outcomes block).yielded.Sublist
          (Block.producedEvents block).zipIdx ∧
        ((Block.play 0 outcomes block).yielded.map Prod.fst).Sublist
          (Block.producedEvents block)) ∧
      ∀ {node : Node} {model : Model} {rules : List Rule}
        {declared : List Variable} {block : Block},
        compile node model rules declared = .ok block →
          ∀ occurrence ∈ (Block.producedEvents block).zipIdx, ∃ outcomes,
            occurrence ∈ (Block.play 0 outcomes block).yielded := by
  constructor
  · intro block outcomes
    have placed := Block.yielded_play_sublist 0 outcomes block
    have named := placed.map Prod.fst
    rw [List.zipIdx_map_fst] at named
    exact ⟨placed, named⟩
  · intro node model rules declared block compiled occurrence produced
    by_cases empty : rules = []
    · subst empty
      cases compiled
      cases produced
    · obtain ⟨-, -, rfl⟩ := (compile_eq_ok_iff empty).mp compiled
      obtain ⟨outcomes, handedOut⟩ :=
        Rule.reaches_generatedList (model.serviceClass node) 0 rules produced
      refine ⟨outcomes, ?_⟩
      rw [Block.play_generatedBlock, ← outcomes.append_nil]
      exact handedOut []

/-- An order can be placed at last although an earlier rule stops. -/
theorem last_order_event_is_yielded :
    compile Sample.order Sample.orders Sample.rules Sample.declared =
        .ok (generatedBlock "Orders" Sample.rules Sample.declared) ∧
      ∃ outcomes, ("OrderPlaced", 2) ∈
        (Block.play 0 outcomes
          (generatedBlock "Orders" Sample.rules Sample.declared)).yielded := by
  have last : ("OrderPlaced", 2) ∈ (Block.producedEvents
      (generatedBlock "Orders" Sample.rules Sample.declared)).zipIdx := by
    decide +kernel
  exact ⟨Sample.compile_rules,
    produced_events_are_yielded.2 Sample.compile_rules _ last⟩

end AggregateRules
