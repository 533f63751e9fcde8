import AggregateRules.Execution.Behavior
import AggregateRules.Proofs.Compilation.Generation

/-!
# Generated code means what the rules mean

Rules end a behavior by breaking off the whole execution, while generated
statements hand the end on from block to block. `Execution.asFlow` turns the one
form into the other, and under it the block of a behavior runs exactly like the
behavior itself: with the same evaluations, assignments and events in the same
order, the same variables and hidden state at the end, and the same failures.
-/

namespace AggregateRules

namespace Execution

/-- An execution as it looks to blocks of statements: where it ends the
behavior, the behavior is left. A failure remains one. -/
def asFlow (execution : Execution Value State Unit) :
    Execution Value State Flow := fun machine =>
  match execution machine with
  | .ok () final => .ok .next final
  | .error .finished final => .ok .leave final
  | .error .failed final => .error .failed final

/-- An execution that may fail but never ends the behavior. -/
def NeverFinishes (execution : Execution Value State α) : Prop :=
  ∀ machine final, execution machine ≠ .error .finished final

theorem neverFinishes_pure (value : α) :
    NeverFinishes (pure value : Execution Value State α) := by
  intro machine final finished
  cases finished

theorem neverFinishes_modify
    (change : Machine Value State → Machine Value State) :
    NeverFinishes (modify change : Execution Value State Unit) := by
  intro machine final finished
  cases finished

theorem neverFinishes_get :
    NeverFinishes (get : Execution Value State (Machine Value State)) := by
  intro machine final finished
  cases finished

theorem neverFinishes_set (machine : Machine Value State) :
    NeverFinishes (set machine : Execution Value State PUnit) := by
  intro start final finished
  cases finished

theorem neverFinishes_throw_failed :
    NeverFinishes (throw .failed : Execution Value State α) := by
  intro machine final finished
  cases finished

theorem NeverFinishes.bind {first : Execution Value State α}
    {next : α → Execution Value State β}
    (firstNever : NeverFinishes first)
    (nextNever : ∀ value, NeverFinishes (next value)) :
    NeverFinishes (first >>= next) := by
  intro machine final finished
  change EStateM.bind first next machine = _ at finished
  unfold EStateM.bind at finished
  split at finished
  · next value middle _ => exact nextNever value middle final finished
  · next ending middle ended =>
      cases finished
      exact firstNever machine final ended

theorem neverFinishes_evaluate (evaluator : Evaluator Value State)
    (expression : Expression) :
    NeverFinishes (evaluate evaluator expression) := by
  refine (neverFinishes_modify _).bind fun _ => ?_
  refine neverFinishes_get.bind fun machine => ?_
  refine (neverFinishes_set _).bind fun _ => ?_
  split
  · exact neverFinishes_pure _
  · exact neverFinishes_throw_failed

theorem neverFinishes_clear :
    NeverFinishes (clear : Execution Value State Unit) :=
  neverFinishes_modify _

theorem neverFinishes_evaluateFields (evaluator : Evaluator Value State)
    (fields : List (String × Expression)) :
    NeverFinishes (evaluateFields evaluator fields) := by
  induction fields with
  | nil => exact neverFinishes_pure []
  | cons field rest ih =>
      refine (neverFinishes_evaluate evaluator field.2).bind fun value => ?_
      exact ih.bind fun values => neverFinishes_pure _

theorem neverFinishes_assignAll (evaluator : Evaluator Value State)
    (bindings : List (String × Expression)) :
    NeverFinishes (assignAll evaluator bindings) := by
  induction bindings with
  | nil => exact neverFinishes_pure ()
  | cons binding rest ih =>
      refine (neverFinishes_evaluate evaluator binding.2).bind fun value => ?_
      refine NeverFinishes.bind ?_ fun _ => ih
      exact (neverFinishes_modify _).bind fun _ => neverFinishes_modify _

@[simp] theorem asFlow_pure :
    (pure () : Execution Value State Unit).asFlow = pure .next :=
  rfl

@[simp] theorem asFlow_throw_finished :
    (throw .finished : Execution Value State Unit).asFlow = pure .leave :=
  rfl

/-- What never ends the behavior comes before the flow of what follows. -/
theorem asFlow_bind {first : Execution Value State α}
    (never : NeverFinishes first) (next : α → Execution Value State Unit) :
    (first >>= next).asFlow = first >>= fun value => (next value).asFlow := by
  funext machine
  change (match EStateM.bind first next machine with
    | .ok () final => _
    | .error .finished final => _
    | .error .failed final => _) = EStateM.bind first _ machine
  unfold EStateM.bind
  cases ran : first machine with
  | ok value middle => rfl
  | error ending middle =>
      cases ending with
      | finished => exact absurd ran (never machine middle)
      | failed => rfl

theorem asFlow_seq (first second : Execution Value State Unit) :
    (do first; second : Execution Value State Unit).asFlow =
      first.asFlow.followedBy second.asFlow := by
  funext machine
  change (match EStateM.bind first (fun _ => second) machine with
    | .ok () final => _
    | .error .finished final => _
    | .error .failed final => _) = EStateM.bind first.asFlow _ machine
  unfold EStateM.bind
  simp only [asFlow]
  cases first machine with
  | ok value middle => rfl
  | error ending middle => cases ending <;> rfl

end Execution

open Execution Compilation

variable {Value State : Type} (evaluator : Evaluator Value State)

theorem neverFinishes_mapping (mapping : Mapping) :
    NeverFinishes (mapping.evaluate evaluator) := by
  cases mapping with
  | expression source =>
      exact (neverFinishes_evaluate evaluator source).bind fun _ =>
        neverFinishes_pure _
  | fields sources =>
      exact (neverFinishes_evaluateFields evaluator sources.entries).bind
        fun _ => neverFinishes_pure _

theorem neverFinishes_condition (condition : Condition) :
    NeverFinishes (condition.evaluate evaluator) :=
  (neverFinishes_evaluate evaluator condition.test).bind fun _ =>
    neverFinishes_pure _

theorem evaluate_payload (mapping : Mapping) :
    (payload mapping).evaluate evaluator = mapping.evaluate evaluator := by
  cases mapping <;> rfl

theorem Block.run_separated_cons (first : Statement) (rest : List Statement) :
    Block.run evaluator (separated (first :: rest)) =
      (first.run evaluator).followedBy
        (Block.run evaluator (separated rest)) := by
  cases rest with
  | nil => rfl
  | cons second others =>
      change Block.run evaluator
        (first :: .separator :: separated (second :: others)) = _
      simp only [Block.run, Statement.run, pure_next_followedBy]

mutual

theorem Rule.run_generated (service : String) (rule : Rule) :
    (rule.generated service).run evaluator =
      (rule.perform evaluator service).asFlow := by
  cases rule with
  | always action =>
      exact Action.run_generated service action
  | condition condition action stop =>
      have acted := Action.run_generated service action
      simp only [Rule.generated, Statement.run, Rule.perform]
      rw [asFlow_bind (neverFinishes_condition evaluator condition)]
      congr 1
      funext holds
      cases holds with
      | false => rfl
      | true =>
          simp only [if_true, asFlow_seq, ← acted]
          -- Only a rule that stops leaves its body, behind the action.
          cases stop with
          | false => simp [Block.run]
          | true => simp [Block.run, Statement.run]

theorem Action.run_generated (service : String) (action : Action) :
    (action.generated service).run evaluator =
      (action.perform evaluator service).asFlow := by
  cases action with
  | recordEvent event mapping =>
      simp only [Action.generated, Statement.run, Action.perform,
        evaluate_payload]
      rw [asFlow_bind (neverFinishes_mapping evaluator mapping)]
      rfl
  | executeRules rules =>
      exact Rule.run_generatedList service rules

theorem Rule.run_generatedList (service : String) (rules : List Rule) :
    Block.run evaluator (separated (Rule.generatedList service rules)) =
      (Rule.performList evaluator service rules).asFlow := by
  cases rules with
  | nil => rfl
  | cons rule rest =>
      have first := Rule.run_generated service rule
      have others := Rule.run_generatedList service rest
      simp only [Rule.generatedList, Rule.performList, asFlow_seq,
        Block.run_separated_cons, first, others]

end

theorem Machine.afterwards_asFlow (machine : Machine Value State)
    (execution : Execution Value State Unit) :
    machine.afterwards execution.asFlow = machine.afterwards execution := by
  unfold Machine.afterwards asFlow
  cases execution machine with
  | ok value final => rfl
  | error ending final => cases ending <;> rfl

/-- A block runs like the behavior that it was compiled from: it ends in the
same way, and what was observed, the variables and the hidden state are the
same afterwards. -/
theorem run_compiled_block {node : Node} {model : Model} {rules : List Rule}
    {declared : List Variable} {block : Block}
    (compiled : compile node model rules declared = .ok block)
    (evaluator : Evaluator Value State) :
    Block.run evaluator block =
        (performBehavior evaluator (model.serviceClass node) rules
          declared).asFlow ∧
      ∀ machine : Machine Value State,
        machine.afterwards (Block.run evaluator block) =
          machine.afterwards
            (performBehavior evaluator (model.serviceClass node) rules
              declared) := by
  have sameFlow :
      Block.run evaluator block =
        (performBehavior evaluator (model.serviceClass node) rules
          declared).asFlow := by
    cases rules with
    | nil =>
        cases compiled
        rfl
    | cons rule rest =>
        have shape := ((compile_eq_ok_iff (by simp)).mp compiled).2.2
        have applied := Rule.run_generatedList evaluator
          (model.serviceClass node) (rule :: rest)
        simp only [performBehavior, shape, generatedBlock, Block.run,
          declareVariables, Statement.run, pure_next_followedBy, applied,
          bind_followedBy]
        rw [asFlow_bind neverFinishes_clear]
        congr 1
        funext _
        rw [asFlow_bind (neverFinishes_assignAll evaluator _)]
  refine ⟨sameFlow, ?_⟩
  intro machine
  rw [sameFlow, machine.afterwards_asFlow]

/-- An evaluator that finds everything true, counts its evaluations, and sets a
variable of its own accord. -/
def Sample.countingEvaluator : Evaluator Bool Nat where
  evaluate _ store count := ⟨some true, putEntry "seen" true store, count + 1⟩
  isTrue value := value

theorem run_sample_block :
    compile Sample.order Sample.orders Sample.rules Sample.declared =
        .ok (generatedBlock "Orders" Sample.rules Sample.declared) ∧
      Block.run Sample.countingEvaluator
          (generatedBlock "Orders" Sample.rules Sample.declared) =
        (performBehavior Sample.countingEvaluator
          (Sample.orders.serviceClass Sample.order) Sample.rules
          Sample.declared).asFlow :=
  ⟨Sample.compile_rules,
    (run_compiled_block Sample.compile_rules Sample.countingEvaluator).1⟩

end AggregateRules
