import AggregateRules.Behavior
import AggregateRules.Proofs.Compilation.Generation

/-!
# Behaviors are recovered from generated code

A block shows the behavior that it was compiled from: the variables, the kinds
of the rules, their conditions and how they are nested, which of them stop, and
the data that each event is recorded with. Of the name of an event it shows the
class. So two behaviors with one block agree up to the spelling of events, see
`compile_determines_behavior`.
-/

namespace AggregateRules

mutual

/-- A rule in which each event is named by its class. -/
def Rule.withClassNames : Rule → Rule
  | .always action => .always action.withClassNames
  | .condition condition action stop =>
      .condition condition action.withClassNames stop

def Action.withClassNames : Action → Action
  | .recordEvent event mapping => .recordEvent (Label.className event) mapping
  | .executeRules rules => .executeRules (Rule.withClassNamesList rules)

def Rule.withClassNamesList : List Rule → List Rule
  | [] => []
  | rule :: rest => rule.withClassNames :: Rule.withClassNamesList rest

end

mutual

/-- Rules that are the same but for the spelling of events, which may differ
where both names refer to one class. -/
inductive Rule.Respelled : Rule → Rule → Prop where
  | always :
      Action.Respelled left right →
      Rule.Respelled (.always left) (.always right)
  | condition :
      Action.Respelled left right →
      Rule.Respelled (.condition condition left stop)
        (.condition condition right stop)

inductive Action.Respelled : Action → Action → Prop where
  | recordEvent :
      Label.sameClass left right = true →
      Action.Respelled (.recordEvent left mapping) (.recordEvent right mapping)
  | executeRules :
      Rule.RespelledList left right →
      Action.Respelled (.executeRules left) (.executeRules right)

inductive Rule.RespelledList : List Rule → List Rule → Prop where
  | nil : Rule.RespelledList [] []
  | cons :
      Rule.Respelled left right →
      Rule.RespelledList leftRest rightRest →
      Rule.RespelledList (left :: leftRest) (right :: rightRest)

end

mutual

theorem Rule.respelled_of_withClassNames {left right : Rule}
    (same : left.withClassNames = right.withClassNames) :
    Rule.Respelled left right := by
  cases left with
  | always leftAction =>
      cases right with
      | always rightAction =>
          have acted := Rule.always.inj same
          exact .always (Action.respelled_of_withClassNames acted)
      | condition => cases same
  | condition leftCondition leftAction leftStop =>
      cases right with
      | always => cases same
      | condition rightCondition rightAction rightStop =>
          obtain ⟨rfl, acted, rfl⟩ := Rule.condition.inj same
          exact .condition (Action.respelled_of_withClassNames acted)

theorem Action.respelled_of_withClassNames {left right : Action}
    (same : left.withClassNames = right.withClassNames) :
    Action.Respelled left right := by
  cases left with
  | recordEvent leftEvent leftMapping =>
      cases right with
      | recordEvent rightEvent rightMapping =>
          obtain ⟨sameName, rfl⟩ := Action.recordEvent.inj same
          exact .recordEvent (beq_iff_eq.mpr sameName)
      | executeRules => cases same
  | executeRules leftRules =>
      cases right with
      | recordEvent => cases same
      | executeRules rightRules =>
          have executed := Action.executeRules.inj same
          exact .executeRules (Rule.respelledList_of_withClassNames executed)

theorem Rule.respelledList_of_withClassNames {left right : List Rule}
    (same : Rule.withClassNamesList left = Rule.withClassNamesList right) :
    Rule.RespelledList left right := by
  cases left with
  | nil =>
      cases right with
      | nil => exact .nil
      | cons => cases same
  | cons leftRule leftRest =>
      cases right with
      | nil => cases same
      | cons rightRule rightRest =>
          obtain ⟨first, others⟩ := List.cons.inj same
          exact .cons (Rule.respelled_of_withClassNames first)
            (Rule.respelledList_of_withClassNames others)

end

def Payload.mapping : Payload → Mapping
  | .whole value => .expression value
  | .record fields => .ofFields fields

mutual

/-- The rule that a statement was generated from. The statement of an action is
read as a rule that always acts. -/
def Statement.rule? : Statement → Option Rule
  | .branch condition body => do
      let (action, stop) ← Block.guarded? body
      some (.condition condition action stop)
  | .scope body => do
      let rules ← Block.rules? body
      some (.always (.executeRules rules))
  | .produce _ event payload =>
      some (.always (.recordEvent event payload.mapping))
  | .declareVariables _ | .finish | .separator => none

/-- The action in the body of a branch, and whether it ends the behavior. -/
def Block.guarded? : List Statement → Option (Action × Bool)
  | [acted] => do
      let rule ← acted.rule?
      some (rule.action, false)
  | [acted, .finish] => do
      let rule ← acted.rule?
      some (rule.action, true)
  | _ => none

def Block.rules? : List Statement → Option (List Rule)
  | [] => some []
  | [last] => do
      let rule ← last.rule?
      some [rule]
  | first :: .separator :: rest => do
      let rule ← first.rule?
      let rules ← Block.rules? rest
      some (rule :: rules)
  | _ => none

end

/-- The behavior that a block was compiled from, its events named by their
classes. -/
def Block.behavior? : Block → Option Behavior
  | .declareVariables bindings :: .separator :: body => do
      let rules ← Block.rules? body
      some ⟨bindings.map fun (name, initializer) => ⟨name, initializer⟩, rules⟩
  | _ => none

theorem mapping_payload (mapping : Mapping) :
    (Compilation.payload mapping).mapping = mapping := by
  cases mapping with
  | expression value => rfl
  | fields fields =>
      rw [Compilation.payload, Payload.mapping, Mapping.ofFields,
        OrderedMap.ofList_entries]

theorem Block.guarded?_body {acted : Statement} {action : Action}
    (read : acted.rule? = some (.always action)) (stop : Bool) :
    Block.guarded? (if stop then [acted, .finish] else [acted]) =
      some (action, stop) := by
  cases stop with
  | false =>
      rw [if_neg Bool.false_ne_true, Block.guarded?, read]
      rfl
  | true =>
      rw [if_pos rfl, Block.guarded?, read]
      rfl

theorem Block.rules?_separated_cons {first : Statement} {rule : Rule}
    (read : first.rule? = some rule) {rest : List Statement}
    {rules : List Rule}
    (others : Block.rules? (Compilation.separated rest) = some rules) :
    Block.rules? (Compilation.separated (first :: rest)) =
      some (rule :: rules) := by
  cases rest with
  | nil =>
      cases others
      change Block.rules? [first] = _
      rw [Block.rules?, read]
      rfl
  | cons second more =>
      change Block.rules?
        (first :: .separator :: Compilation.separated (second :: more)) = _
      rw [Block.rules?, read, others]
      rfl

mutual

theorem Rule.rule?_generated (service : String) (rule : Rule) :
    (rule.generated service).rule? = some rule.withClassNames := by
  cases rule with
  | always action => exact Action.rule?_generated service action
  | condition condition action stop =>
      have acted := Action.rule?_generated service action
      rw [Rule.generated, Statement.rule?, Block.guarded?_body acted stop]
      rfl

theorem Action.rule?_generated (service : String) (action : Action) :
    (action.generated service).rule? =
      some (.always action.withClassNames) := by
  cases action with
  | recordEvent event mapping =>
      rw [Action.generated, Statement.rule?, mapping_payload,
        Action.withClassNames]
  | executeRules rules =>
      have executed := Rule.rules?_separated service rules
      rw [Action.generated, Statement.rule?, executed]
      rfl

theorem Rule.rules?_separated (service : String) (rules : List Rule) :
    Block.rules? (Compilation.separated (Rule.generatedList service rules)) =
      some (Rule.withClassNamesList rules) := by
  cases rules with
  | nil => rfl
  | cons rule rest =>
      have first := Rule.rule?_generated service rule
      have others := Rule.rules?_separated service rest
      exact Block.rules?_separated_cons first others

end

theorem Block.behavior?_generatedBlock (service : String) (rules : List Rule)
    (declared : List Variable) :
    Block.behavior? (generatedBlock service rules declared) =
      some ⟨declared, Rule.withClassNamesList rules⟩ := by
  have read := Rule.rules?_separated service rules
  have bindings :
      (declared.map fun entry => (entry.name, entry.initializer)).map
        (fun (name, initializer) => Variable.mk name initializer) =
        declared := by
    rw [List.map_map]
    exact List.map_id declared
  rw [generatedBlock, Compilation.declareVariables, Block.behavior?, read,
    bindings]
  rfl

/-- A block determines the behavior that it was compiled from, up to the
spelling of events: variables and rules can be read from it, the events named by
their classes. Behaviors that compile to one block have the same variables and
the same rules, except that the names of corresponding events may be two
spellings of one class. -/
theorem compile_determines_behavior (node : Node) (model : Model) :
    (∀ rules declared block, rules ≠ [] →
      compile node model rules declared = .ok block →
      Block.behavior? block =
        some ⟨declared, Rule.withClassNamesList rules⟩) ∧
    ∀ left right leftDeclared rightDeclared block, left ≠ [] → right ≠ [] →
      compile node model left leftDeclared = .ok block →
      compile node model right rightDeclared = .ok block →
      leftDeclared = rightDeclared ∧ Rule.RespelledList left right := by
  have recovered {rules : List Rule} {declared : List Variable} {block : Block}
      (nonempty : rules ≠ [])
      (compiled : compile node model rules declared = .ok block) :
      Block.behavior? block =
        some ⟨declared, Rule.withClassNamesList rules⟩ := by
    obtain ⟨_, _, shape⟩ := (compile_eq_ok_iff nonempty).mp compiled
    rw [shape]
    exact Block.behavior?_generatedBlock _ rules declared
  constructor
  · intro rules declared block nonempty compiled
    exact recovered nonempty compiled
  · intro left right leftDeclared rightDeclared block leftNonempty rightNonempty
      leftCompiled rightCompiled
    have leftRead := recovered leftNonempty leftCompiled
    have rightRead := recovered rightNonempty rightCompiled
    have same := Option.some.inj (leftRead.symm.trans rightRead)
    obtain ⟨sameDeclared, sameRules⟩ := Behavior.mk.inj same
    exact ⟨sameDeclared, Rule.respelledList_of_withClassNames sameRules⟩

/-- The rules `Sample.rules` with other spellings of their events. -/
def Sample.respelledRules : List Rule :=
  [.whenTrue ⟨"open"⟩ (.executeRules
      [(Rule.whenFalse ⟨"paid"⟩
          (.recordEvent "FLAGGED" (.expression ⟨"reason"⟩))).stopping,
        .always (.recordEvent "order-placed"
          (.ofFields [("total", ⟨"sum"⟩), ("id", ⟨"id"⟩)]))]),
    .always (.recordEvent "Order Placed" (.expression ⟨"rest"⟩))]

theorem sample_block_determines_behavior :
    Block.behavior? (generatedBlock "Orders" Sample.rules Sample.declared) =
        some ⟨Sample.declared, Rule.withClassNamesList Sample.rules⟩ ∧
      compile Sample.order Sample.orders Sample.respelledRules
          Sample.declared =
        .ok (generatedBlock "Orders" Sample.rules Sample.declared) ∧
      Rule.RespelledList Sample.rules Sample.respelledRules := by
  have determines := compile_determines_behavior Sample.order Sample.orders
  have nonempty : Sample.rules ≠ [] := by simp [Sample.rules]
  have respelledNonempty : Sample.respelledRules ≠ [] := by
    simp [Sample.respelledRules]
  have compiled : compile Sample.order Sample.orders Sample.respelledRules
      Sample.declared =
        .ok (generatedBlock "Orders" Sample.rules Sample.declared) := by
    decide +kernel
  refine ⟨?_, compiled, ?_⟩
  · exact determines.1 _ _ _ nonempty Sample.compile_rules
  · exact (determines.2 _ _ _ _ _ nonempty respelledNonempty
      Sample.compile_rules compiled).2

end AggregateRules
