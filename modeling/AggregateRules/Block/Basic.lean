import AggregateRules.Rule.Basic

/-!
# Blocks of generated statements

A compiled behavior is a block: the statements of an asynchronous generator
that evaluates expressions and hands out events.
-/

namespace AggregateRules

/-- The data of an event: the value of one expression, or a record with the
value of one expression for each field. -/
inductive Payload where
  | whole (value : Expression)
  | record (fields : List (String × Expression))
  deriving DecidableEq

/-- A generated statement. -/
inductive Statement where
  /-- Creates the object that holds the variables, and sets one variable after
  the other. -/
  | declareVariables (bindings : List (String × Expression))
  /-- Runs the body if the condition holds. -/
  | branch (condition : Condition) (body : List Statement)
  /-- Runs the body. -/
  | scope (body : List Statement)
  /-- Hands out a new event of a service. -/
  | produce (service event : String) (payload : Payload)
  /-- Ends the behavior. -/
  | finish
  /-- Does nothing and is shown as an empty line. -/
  | separator

/-- Statements that run one after the other. -/
abbrev Block := List Statement

mutual

/-- Whether two statements are equal, as a computation. -/
def Statement.agrees : Statement → Statement → Bool
  | .declareVariables left, .declareVariables right => left == right
  | .branch leftCondition left, .branch rightCondition right =>
      leftCondition == rightCondition && Block.agrees left right
  | .scope left, .scope right => Block.agrees left right
  | .produce leftService leftEvent leftPayload,
      .produce rightService rightEvent rightPayload =>
      leftService == rightService && leftEvent == rightEvent &&
        leftPayload == rightPayload
  | .finish, .finish => true
  | .separator, .separator => true
  | _, _ => false

def Block.agrees : List Statement → List Statement → Bool
  | [], [] => true
  | left :: leftRest, right :: rightRest =>
      left.agrees right && Block.agrees leftRest rightRest
  | _, _ => false

end

mutual

theorem Statement.agrees_iff (left right : Statement) :
    left.agrees right = true ↔ left = right := by
  cases left <;> cases right <;>
    simp [Statement.agrees, Block.agrees_iff, and_assoc]

theorem Block.agrees_iff (left right : List Statement) :
    Block.agrees left right = true ↔ left = right := by
  match left, right with
  | [], [] => simp [Block.agrees]
  | [], _ :: _ => simp [Block.agrees]
  | _ :: _, [] => simp [Block.agrees]
  | left :: leftRest, right :: rightRest =>
      simp [Block.agrees, Statement.agrees_iff left right,
        Block.agrees_iff leftRest rightRest]

end

instance : DecidableEq Statement := fun left right =>
  decidable_of_iff _ (Statement.agrees_iff left right)

mutual

/-- The events that a statement hands out on one path or another, in the order
of the text. -/
def Statement.producedEvents : Statement → List String
  | .branch _ body => Block.producedEvents body
  | .scope body => Block.producedEvents body
  | .produce _ event _ => [event]
  | .declareVariables _ | .finish | .separator => []

def Block.producedEvents : List Statement → List String
  | [] => []
  | statement :: rest => statement.producedEvents ++ Block.producedEvents rest

end

end AggregateRules
