import AggregateRules.Proofs.Execution.Outcomes

/-!
# Outcomes stand for runs

A run by outcomes leaves out all that an evaluator does. It stands for a run of
the generated code nevertheless: an evaluator that gives answers from a list
makes the code hand out the same events, see `Block.realizes_play`. In the other
direction, no evaluator makes a block hand out anything but some of its produced
events in their order, also where the run fails, see `Block.handsOut_run`.
-/

namespace AggregateRules

def Observation.event? : Observation Value → Option String
  | .produced _ event _ => some event
  | .evaluated _ | .assigned _ _ => none

/-- The events that have been handed out so far. -/
def Machine.events (machine : Machine Value State) : List String :=
  machine.trace.filterMap Observation.event?

namespace Execution

/-- Whether an execution hands out no other events than some of a list, in their
order. -/
def HandsOut (execution : Execution Value State α) (events : List String) :
    Prop :=
  ∀ machine : Machine Value State, ∃ handed,
    (machine.afterwards execution).events = machine.events ++ handed ∧
      handed.Sublist events

theorem HandsOut.bind {first : Execution Value State α}
    {next : α → Execution Value State β} {events more : List String}
    (firstHands : first.HandsOut events)
    (nextHands : ∀ value, (next value).HandsOut more) :
    HandsOut (first >>= next) (events ++ more) := by
  intro machine
  obtain ⟨handed, traced, within⟩ := firstHands machine
  change ∃ handed, (machine.afterwards (EStateM.bind first next)).events =
    machine.events ++ handed ∧ _
  unfold Machine.afterwards EStateM.bind at *
  cases ran : first machine with
  | error ending middle =>
      rw [ran] at traced
      exact ⟨handed, traced, within.trans (List.sublist_append_left _ _)⟩
  | ok value middle =>
      rw [ran] at traced
      obtain ⟨later, tracedNext, withinNext⟩ := nextHands value middle
      refine ⟨handed ++ later, ?_, within.append withinNext⟩
      rw [← List.append_assoc, ← traced]
      exact tracedNext

theorem HandsOut.weaken {execution : Execution Value State α}
    {events more : List String} (hands : execution.HandsOut events)
    (within : events.Sublist more) : execution.HandsOut more := by
  intro machine
  obtain ⟨handed, traced, among⟩ := hands machine
  exact ⟨handed, traced, among.trans within⟩

theorem handsOut_pure (value : α) :
    (pure value : Execution Value State α).HandsOut [] := by
  intro machine
  exact ⟨[], (List.append_nil _).symm, List.Sublist.refl _⟩

/-- What an evaluation does to a machine. -/
theorem evaluate_eq (evaluator : Evaluator Value State)
    (expression : Expression) (machine : Machine Value State) :
    evaluate evaluator expression machine =
      let evaluation :=
        evaluator.evaluate expression machine.store machine.state
      let final : Machine Value State :=
        ⟨evaluation.store, evaluation.state,
          machine.trace ++ [.evaluated expression]⟩
      match evaluation.value with
      | some value => .ok value final
      | none => .error .failed final := by
  change (match (evaluator.evaluate expression machine.store
      machine.state).value with
    | some value => (pure value : Execution Value State Value)
    | none => throw Ending.failed) _ = _
  dsimp only
  cases (evaluator.evaluate expression machine.store machine.state).value with
  | none => rfl
  | some value => rfl

theorem handsOut_evaluate (evaluator : Evaluator Value State)
    (expression : Expression) :
    (evaluate evaluator expression).HandsOut [] := by
  intro machine
  refine ⟨[], ?_, List.Sublist.refl _⟩
  rw [Machine.afterwards, evaluate_eq]
  dsimp only
  split
  · next ran =>
    split at ran
    · cases ran
      simp [Machine.events, Observation.event?]
    · cases ran
  · next ran =>
    split at ran
    · cases ran
    · cases ran
      simp [Machine.events, Observation.event?]

theorem handsOut_clear :
    (clear : Execution Value State Unit).HandsOut [] := by
  intro machine
  exact ⟨[], (List.append_nil _).symm, List.Sublist.refl _⟩

theorem handsOut_assign (name : String) (value : Value) :
    (assign name value : Execution Value State Unit).HandsOut [] := by
  intro machine
  refine ⟨[], ?_, List.Sublist.refl _⟩
  change (machine.trace ++ [_]).filterMap Observation.event? = _
  simp [Machine.events, Observation.event?]

theorem handsOut_produce (service event : String) (data : EventData Value) :
    (produce service event data : Execution Value State Unit).HandsOut
      [event] := by
  intro machine
  refine ⟨[event], ?_, List.Sublist.refl _⟩
  change (machine.trace ++ [_]).filterMap Observation.event? = _
  simp [Machine.events, Observation.event?]

theorem handsOut_evaluateFields (evaluator : Evaluator Value State)
    (fields : List (String × Expression)) :
    (evaluateFields evaluator fields).HandsOut [] := by
  induction fields with
  | nil => exact handsOut_pure []
  | cons field rest ih =>
      refine (handsOut_evaluate evaluator field.2).bind fun value => ?_
      exact ih.bind fun values => handsOut_pure _

theorem handsOut_assignAll (evaluator : Evaluator Value State)
    (bindings : List (String × Expression)) :
    (assignAll evaluator bindings).HandsOut [] := by
  induction bindings with
  | nil => exact handsOut_pure ()
  | cons binding rest ih =>
      refine (handsOut_evaluate evaluator binding.2).bind fun value => ?_
      exact (handsOut_assign binding.1 value).bind fun _ => ih

theorem HandsOut.followedBy {first second : Execution Value State Flow}
    {events more : List String} (firstHands : first.HandsOut events)
    (secondHands : second.HandsOut more) :
    (first.followedBy second).HandsOut (events ++ more) := by
  refine firstHands.bind fun flow => ?_
  cases flow with
  | next => exact secondHands
  | leave => exact (handsOut_pure _).weaken (List.nil_sublist _)

end Execution

open Execution

theorem Payload.handsOut_evaluate (evaluator : Evaluator Value State)
    (payload : Payload) : (payload.evaluate evaluator).HandsOut [] := by
  cases payload with
  | whole expression =>
      exact (Execution.handsOut_evaluate evaluator expression).bind fun _ =>
        handsOut_pure _
  | record fields =>
      exact (handsOut_evaluateFields evaluator fields).bind fun _ =>
        handsOut_pure _

mutual

theorem Statement.handsOut_run (evaluator : Evaluator Value State)
    (statement : Statement) :
    (statement.run evaluator).HandsOut statement.producedEvents := by
  cases statement with
  | declareVariables bindings =>
      refine handsOut_clear.bind fun _ => ?_
      exact (handsOut_assignAll evaluator bindings).bind fun _ =>
        handsOut_pure _
  | branch condition body =>
      have tested : (condition.evaluate evaluator).HandsOut [] :=
        (Execution.handsOut_evaluate evaluator condition.test).bind fun _ =>
          handsOut_pure _
      refine tested.bind fun holds => ?_
      cases holds with
      | true => exact Block.handsOut_run evaluator body
      | false => exact (handsOut_pure _).weaken (List.nil_sublist _)
  | scope body => exact Block.handsOut_run evaluator body
  | produce service event payload =>
      refine (payload.handsOut_evaluate evaluator).bind fun data => ?_
      exact (handsOut_produce service event data).bind fun _ =>
        handsOut_pure _
  | finish | separator => exact handsOut_pure _

/-- Whatever an evaluator does, a block hands out no other events than some of
its produced ones, in their order. -/
theorem Block.handsOut_run (evaluator : Evaluator Value State)
    (block : List Statement) :
    (Block.run evaluator block).HandsOut (Block.producedEvents block) := by
  cases block with
  | nil => exact handsOut_pure _
  | cons statement rest =>
      exact (Statement.handsOut_run evaluator statement).followedBy
        (Block.handsOut_run evaluator rest)

end

/-- An evaluator that never fails and takes its values from a list, which is its
hidden state. -/
def Evaluator.answering : Evaluator Bool (List Bool) where
  evaluate _ store answers :=
    ⟨some (answers.headD false), store, answers.tail⟩
  isTrue value := value

/-- Whether some answers, and no further ones, make an execution give a value
and hand out events. -/
def Realizes (execution : Execution Bool (List Bool) α) (value : α)
    (events : List String) : Prop :=
  ∃ answers, ∀ (machine : Machine Bool (List Bool)) (rest : List Bool),
    machine.state = answers ++ rest →
      ∃ final, execution machine = .ok value final ∧ final.state = rest ∧
        final.events = machine.events ++ events

theorem Realizes.bind {first : Execution Bool (List Bool) α}
    {next : α → Execution Bool (List Bool) β} {value : α} {result : β}
    {events more : List String} (firstRuns : Realizes first value events)
    (nextRuns : Realizes (next value) result more) :
    Realizes (first >>= next) result (events ++ more) := by
  obtain ⟨answers, firstRuns⟩ := firstRuns
  obtain ⟨moreAnswers, nextRuns⟩ := nextRuns
  refine ⟨answers ++ moreAnswers, ?_⟩
  intro machine rest given
  rw [List.append_assoc] at given
  obtain ⟨middle, ran, left, handed⟩ := firstRuns machine _ given
  obtain ⟨final, ranNext, leftNext, handedNext⟩ := nextRuns middle rest left
  refine ⟨final, ?_, leftNext, ?_⟩
  · change EStateM.bind first next machine = _
    rw [EStateM.bind, ran]
    exact ranNext
  · rw [handedNext, handed, List.append_assoc]

theorem realizes_pure (value : α) :
    Realizes (pure value : Execution Bool (List Bool) α) value [] :=
  ⟨[], fun machine rest given => ⟨machine, rfl, given, by simp⟩⟩

theorem realizes_evaluate (expression : Expression) (answer : Bool) :
    Realizes (Execution.evaluate .answering expression) answer [] := by
  refine ⟨[answer], ?_⟩
  intro machine rest given
  refine ⟨⟨machine.store, rest, machine.trace ++ [.evaluated expression]⟩,
    ?_, rfl, ?_⟩
  · simp [evaluate_eq, Evaluator.answering, given]
  · simp [Machine.events, Observation.event?]

theorem realizes_clear :
    Realizes (clear : Execution Bool (List Bool) Unit) () [] :=
  ⟨[], fun machine _ given =>
    ⟨{ machine with store := [] }, rfl, given, (List.append_nil _).symm⟩⟩

theorem realizes_assign (name : String) (value : Bool) :
    Realizes (assign name value : Execution Bool (List Bool) Unit) () [] := by
  refine ⟨[], ?_⟩
  intro machine rest given
  refine ⟨⟨putEntry name value machine.store, machine.state,
    machine.trace ++ [.assigned name value]⟩, rfl, given, ?_⟩
  simp [Machine.events, Observation.event?]

theorem realizes_produce (service event : String) (data : EventData Bool) :
    Realizes (produce service event data : Execution Bool (List Bool) Unit) ()
      [event] := by
  refine ⟨[], ?_⟩
  intro machine rest given
  refine ⟨⟨machine.store, machine.state,
    machine.trace ++ [.produced service event data]⟩, rfl, given, ?_⟩
  simp [Machine.events, Observation.event?]

theorem exists_realizes_evaluateFields
    (fields : List (String × Expression)) :
    ∃ values, Realizes (evaluateFields .answering fields) values [] := by
  induction fields with
  | nil => exact ⟨[], realizes_pure []⟩
  | cons field rest ih =>
      obtain ⟨values, runs⟩ := ih
      exact ⟨_, (realizes_evaluate field.2 false).bind
        (runs.bind (realizes_pure ((field.1, false) :: values)))⟩

theorem realizes_assignAll (bindings : List (String × Expression)) :
    Realizes (assignAll .answering bindings) () [] := by
  induction bindings with
  | nil => exact realizes_pure ()
  | cons binding rest ih =>
      exact (realizes_evaluate binding.2 false).bind
        ((realizes_assign binding.1 false).bind ih)

theorem Payload.exists_realizes_evaluate (payload : Payload) :
    ∃ data, Realizes (payload.evaluate .answering) data [] := by
  cases payload with
  | whole expression =>
      exact ⟨_, (realizes_evaluate expression false).bind
        (realizes_pure (EventData.whole false))⟩
  | record fields =>
      obtain ⟨values, runs⟩ := exists_realizes_evaluateFields fields
      exact ⟨_, runs.bind (realizes_pure (EventData.record values))⟩

/-- Whether an execution of statements can do what a run by outcomes does. -/
def RealizesPlay (execution : Execution Bool (List Bool) Flow) (run : Play) :
    Prop :=
  Realizes execution run.flow (run.yielded.map Prod.fst)

theorem RealizesPlay.followedBy {first second : Execution Bool (List Bool) Flow}
    {run : Play} {next : List Bool → Play} (firstRuns : RealizesPlay first run)
    (secondRuns : RealizesPlay second (next run.outcomes)) :
    RealizesPlay (first.followedBy second) (run.followedBy next) := by
  unfold RealizesPlay Play.followedBy
  cases goesOn : run.flow with
  | next =>
      rw [RealizesPlay, goesOn] at firstRuns
      rw [List.map_append]
      exact firstRuns.bind secondRuns
  | leave =>
      rw [RealizesPlay, goesOn] at firstRuns
      simp only [goesOn]
      rw [← (run.yielded.map Prod.fst).append_nil]
      exact firstRuns.bind (realizes_pure Flow.leave)

mutual

theorem Statement.realizes_play (place : Nat) (outcomes : List Bool)
    (statement : Statement) :
    RealizesPlay (statement.run .answering)
      (statement.play place outcomes) := by
  cases statement with
  | declareVariables bindings =>
      exact realizes_clear.bind
        ((realizes_assignAll bindings).bind (realizes_pure _))
  | branch condition body =>
      have tested : Realizes (condition.evaluate .answering)
          (outcomes.headD false != condition.negated) [] :=
        (realizes_evaluate condition.test _).bind (realizes_pure _)
      rw [Statement.play]
      refine tested.bind ?_
      split
      · exact Block.realizes_play place outcomes.tail body
      · exact realizes_pure _
  | scope body => exact Block.realizes_play place outcomes body
  | produce service event payload =>
      obtain ⟨data, evaluated⟩ := payload.exists_realizes_evaluate
      exact evaluated.bind
        ((realizes_produce service event data).bind (realizes_pure _))
  | finish | separator => exact realizes_pure _

/-- Every run by outcomes is a run of the block with fitting answers. -/
theorem Block.realizes_play (place : Nat) (outcomes : List Bool)
    (block : List Statement) :
    RealizesPlay (Block.run .answering block)
      (Block.play place outcomes block) := by
  cases block with
  | nil => exact realizes_pure _
  | cons statement rest =>
      exact (Statement.realizes_play place outcomes statement).followedBy
        (Block.realizes_play _ _ rest)

end

/-- The events of a run by outcomes are handed out by the code itself, given
fitting answers. -/
theorem Block.exists_events_eq (outcomes : List Bool)
    (block : List Statement) :
    ∃ answers,
      ((⟨[], answers, []⟩ : Machine Bool (List Bool)).afterwards
          (Block.run .answering block)).events =
        (Block.play 0 outcomes block).yielded.map Prod.fst := by
  obtain ⟨answers, runs⟩ := Block.realizes_play 0 outcomes block
  refine ⟨answers, ?_⟩
  obtain ⟨final, ran, -, handed⟩ :=
    runs ⟨[], answers, []⟩ [] answers.append_nil.symm
  rw [Machine.afterwards, ran]
  exact handed

end AggregateRules
