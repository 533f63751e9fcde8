import AggregateRules.Proofs.Compilation.Generation

/-!
# Events that a block hands out

The statements of a compiled block that hand out events correspond one to one to
the events that the rules record, in the order of the text, see
`productions_of_compile`. What is known of one such statement at some depth is
so known from the rules alone.
-/

namespace AggregateRules

/-- What a statement says that hands out an event. -/
structure Production where
  service : String
  event : String
  payload : Payload
  deriving DecidableEq

mutual

/-- The events that a statement hands out on one path or another, with their
services and data, in the order of the text. -/
def Statement.productions : Statement → List Production
  | .branch _ body => Block.productions body
  | .scope body => Block.productions body
  | .produce service event payload => [⟨service, event, payload⟩]
  | .declareVariables _ | .finish | .separator => []

def Block.productions : List Statement → List Production
  | [] => []
  | statement :: rest => statement.productions ++ Block.productions rest

end

/-- What a rule says about an event that it records. -/
structure Recording where
  event : String
  mapping : Mapping

/-- The event is handed out under the name of its class. -/
def Recording.production (service : String) (recording : Recording) :
    Production :=
  ⟨service, Label.className recording.event,
    Compilation.payload recording.mapping⟩

mutual

/-- The events that a rule records with their data, nested rules included, in
the order of the text. -/
def Rule.recordings : Rule → List Recording
  | .always action => action.recordings
  | .condition _ action _ => action.recordings

def Action.recordings : Action → List Recording
  | .recordEvent event mapping => [⟨event, mapping⟩]
  | .executeRules rules => Rule.recordingsOf rules

def Rule.recordingsOf : List Rule → List Recording
  | [] => []
  | rule :: rest => rule.recordings ++ Rule.recordingsOf rest

end

mutual

theorem Rule.map_event_recordings (rule : Rule) :
    rule.recordings.map Recording.event = rule.recordedEvents := by
  cases rule with
  | always action => exact Action.map_event_recordings action
  | condition condition action stop => exact Action.map_event_recordings action

theorem Action.map_event_recordings (action : Action) :
    action.recordings.map Recording.event = action.recordedEvents := by
  cases action with
  | recordEvent event mapping => rfl
  | executeRules rules => exact Rule.map_event_recordingsOf rules

theorem Rule.map_event_recordingsOf (rules : List Rule) :
    (Rule.recordingsOf rules).map Recording.event =
      Rule.recordedEventsOf rules := by
  cases rules with
  | nil => rfl
  | cons rule rest =>
      have first := Rule.map_event_recordings rule
      have others := Rule.map_event_recordingsOf rest
      rw [Rule.recordingsOf, List.map_append, first, others,
        Rule.recordedEventsOf]

end

theorem Block.productions_separated_cons (first : Statement)
    (rest : List Statement) :
    Block.productions (Compilation.separated (first :: rest)) =
      first.productions ++
        Block.productions (Compilation.separated rest) := by
  cases rest with
  | nil => rfl
  | cons second others => rfl

mutual

theorem Rule.productions_generated (service : String) (rule : Rule) :
    (rule.generated service).productions =
      rule.recordings.map (Recording.production service) := by
  cases rule with
  | always action => exact Action.productions_generated service action
  | condition condition action stop =>
      have acted := Action.productions_generated service action
      -- The statement that ends the behavior hands out nothing.
      cases stop with
      | false =>
          simp [Rule.generated, Statement.productions, Block.productions,
            Rule.recordings, acted]
      | true =>
          simp [Rule.generated, Statement.productions, Block.productions,
            Rule.recordings, acted]

theorem Action.productions_generated (service : String) (action : Action) :
    (action.generated service).productions =
      action.recordings.map (Recording.production service) := by
  cases action with
  | recordEvent event mapping => rfl
  | executeRules rules => exact Rule.productions_generatedList service rules

theorem Rule.productions_generatedList (service : String) (rules : List Rule) :
    Block.productions
        (Compilation.separated (Rule.generatedList service rules)) =
      (Rule.recordingsOf rules).map (Recording.production service) := by
  cases rules with
  | nil => rfl
  | cons rule rest =>
      have first := Rule.productions_generated service rule
      have others := Rule.productions_generatedList service rest
      rw [Rule.generatedList, Block.productions_separated_cons, first, others,
        Rule.recordingsOf, List.map_append]

end

/-- A compiled block hands out what the rules record, at most behind the names
of classes. -/
theorem productions_of_compile {node : Node} {model : Model}
    {rules : List Rule} {declared : List Variable} {block : Block}
    (compiled : compile node model rules declared = .ok block) :
    Block.productions block =
      (Rule.recordingsOf rules).map
        (Recording.production (model.serviceClass node)) := by
  by_cases empty : rules = []
  · subst empty
    cases compiled
    rfl
  · obtain ⟨-, -, rfl⟩ := (compile_eq_ok_iff empty).mp compiled
    exact Rule.productions_generatedList (model.serviceClass node) rules

end AggregateRules
