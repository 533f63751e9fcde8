import AggregateRules.Block.Basic
import AggregateRules.Execution.Machine

/-!
# Execution of blocks

What the statements of a block do when they run one after the other. Each
statement tells whether the statements behind it go on. A statement that leaves
the behavior ends the block that it stands in, and a branch or a scope whose
body was left is left itself, so that all blocks around it end with it.
-/

namespace AggregateRules

/-- The data of an event, its expressions evaluated in their order. -/
def Payload.evaluate (evaluator : Evaluator Value State) :
    Payload → Execution Value State (EventData Value)
  | .whole expression => do
      let value ← Execution.evaluate evaluator expression
      pure (.whole value)
  | .record fields => do
      let values ← Execution.evaluateFields evaluator fields
      pure (.record values)

/-- Whether a condition holds, its expression evaluated once. -/
def Condition.evaluate (evaluator : Evaluator Value State)
    (condition : Condition) : Execution Value State Bool := do
  let value ← Execution.evaluate evaluator condition.test
  pure (evaluator.isTrue value != condition.negated)

/-- Whether a behavior goes on behind a statement, or is left for good. -/
inductive Flow where
  | next
  | leave
  deriving DecidableEq

/-- Goes on with a second computation unless the first one leaves the behavior.
-/
def Execution.followedBy (first second : Execution Value State Flow) :
    Execution Value State Flow := do
  match ← first with
  | .next => second
  | .leave => pure .leave

mutual

def Statement.run (evaluator : Evaluator Value State) :
    Statement → Execution Value State Flow
  | .declareVariables bindings => do
      Execution.clear
      Execution.assignAll evaluator bindings
      pure .next
  | .branch condition body => do
      let holds ← condition.evaluate evaluator
      if holds then Block.run evaluator body else pure .next
  | .scope body => Block.run evaluator body
  | .produce service event payload => do
      let data ← payload.evaluate evaluator
      Execution.produce service event data
      pure .next
  | .finish => pure .leave
  | .separator => pure .next

def Block.run (evaluator : Evaluator Value State) :
    List Statement → Execution Value State Flow
  | [] => pure .next
  | statement :: rest =>
      (statement.run evaluator).followedBy (Block.run evaluator rest)

end

namespace Execution

@[simp] theorem pure_next_followedBy (second : Execution Value State Flow) :
    (pure .next : Execution Value State Flow).followedBy second = second := by
  simp [followedBy]

@[simp] theorem pure_leave_followedBy (second : Execution Value State Flow) :
    (pure .leave : Execution Value State Flow).followedBy second =
      pure .leave := by
  simp [followedBy]

@[simp] theorem followedBy_pure_next (first : Execution Value State Flow) :
    first.followedBy (pure .next) = first := by
  have unchanged :
      (fun flow : Flow =>
        match flow with
        | .next => (pure .next : Execution Value State Flow)
        | .leave => pure .leave) = pure := by
    funext flow
    cases flow <;> rfl
  unfold followedBy
  rw [unchanged, bind_pure]

theorem bind_followedBy (first : Execution Value State α)
    (next : α → Execution Value State Flow)
    (second : Execution Value State Flow) :
    (first >>= next).followedBy second =
      first >>= fun value => (next value).followedBy second := by
  unfold followedBy
  rw [bind_assoc]

theorem followedBy_assoc (first second third : Execution Value State Flow) :
    (first.followedBy second).followedBy third =
      first.followedBy (second.followedBy third) := by
  unfold followedBy
  rw [bind_assoc]
  congr 1
  funext flow
  cases flow <;> simp

end Execution

theorem Block.run_append (evaluator : Evaluator Value State)
    (first second : List Statement) :
    Block.run evaluator (first ++ second) =
      (Block.run evaluator first).followedBy (Block.run evaluator second) := by
  induction first with
  | nil => simp [Block.run]
  | cons statement rest ih =>
      rw [List.cons_append, Block.run, ih, Block.run,
        Execution.followedBy_assoc]

end AggregateRules
