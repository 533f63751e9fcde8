import AggregateRules.Proofs.Compilation.FirstFault

/-!
# The shape of compiled blocks

A compiled block declares the variables and then holds one statement for each
rule, with separators between. At every depth each kind of statement has its own
place, and there are as many of them as there are rules that call for one, see
`CompiledShape`.
-/

namespace AggregateRules

/-- What a statement is, whatever it holds. -/
inductive Statement.Kind where
  | declaration
  | branch (negated : Bool)
  | scope
  | produce
  | finish
  | separator
  deriving DecidableEq

/-- The kinds that actions are compiled to. -/
def Statement.Kind.isAction : Statement.Kind → Bool
  | .scope | .produce => true
  | .declaration | .branch _ | .finish | .separator => false

/-- The kinds that rules are compiled to. -/
def Statement.Kind.isRule : Statement.Kind → Bool
  | .branch _ | .scope | .produce => true
  | .declaration | .finish | .separator => false

def Statement.kind : Statement → Statement.Kind
  | .declareVariables _ => .declaration
  | .branch condition _ => .branch condition.negated
  | .scope _ => .scope
  | .produce _ _ _ => .produce
  | .finish => .finish
  | .separator => .separator

mutual

/-- A statement and all statements within it, in the order of the text. -/
def Statement.preorder : Statement → List Statement
  | .branch condition body => .branch condition body :: Block.preorder body
  | .scope body => .scope body :: Block.preorder body
  | .declareVariables bindings => [.declareVariables bindings]
  | .produce service event payload => [.produce service event payload]
  | .finish => [.finish]
  | .separator => [.separator]

def Block.preorder : List Statement → List Statement
  | [] => []
  | statement :: rest => statement.preorder ++ Block.preorder rest

end

/-- The kinds of all statements of a block, at every depth. -/
def Block.kinds (block : Block) : List Statement.Kind :=
  (Block.preorder block).map Statement.kind

mutual

/-- A rule and all rules within it, in the order of the text. -/
def Rule.preorder : Rule → List Rule
  | .always action => .always action :: action.nestedRules
  | .condition condition action stop =>
      .condition condition action stop :: action.nestedRules

def Action.nestedRules : Action → List Rule
  | .recordEvent _ _ => []
  | .executeRules rules => Rule.preorderOf rules

def Rule.preorderOf : List Rule → List Rule
  | [] => []
  | rule :: rest => rule.preorder ++ Rule.preorderOf rest

end

def Action.records : Action → Bool
  | .recordEvent _ _ => true
  | .executeRules _ => false

def Action.executes : Action → Bool
  | .recordEvent _ _ => false
  | .executeRules _ => true

/-- Whether a rule, apart from those within it, calls for a statement of some
kind. -/
def Rule.callsFor : Statement.Kind → Rule → Bool
  | .branch negated, .condition given _ _ => given.negated == negated
  | .finish, .condition _ _ stop => stop
  | .produce, rule => rule.action.records
  | .scope, rule => rule.action.executes
  | _, _ => false

/-- Statements of rules with separators between. -/
inductive Block.Alternates : Block → Prop where
  | last {statement : Statement} :
      statement.kind.isRule = true → Alternates [statement]
  | next {statement : Statement} {rest : Block} :
      statement.kind.isRule = true →
      Alternates rest →
      Alternates (statement :: .separator :: rest)

/-- Whether a statement has a body as rules are compiled to. A branch acts, and
may end the behavior after that. A scope holds the statements of rules. -/
def Statement.WellShaped : Statement → Prop
  | .branch _ body =>
      ∃ acted, acted.kind.isAction = true ∧
        (body = [acted] ∨ body = [acted, .finish])
  | .scope body => body = [] ∨ Block.Alternates body
  | .declareVariables _ | .produce _ _ _ | .finish | .separator => True

open Compilation

theorem separated_cons_cons (first second : Statement)
    (rest : List Statement) :
    separated (first :: second :: rest) =
      first :: .separator :: separated (second :: rest) :=
  rfl

/-- Separators have nothing within them. -/
theorem mem_preorder_separated {statements : List Statement}
    {statement : Statement}
    (member : statement ∈ Block.preorder (separated statements)) :
    statement = .separator ∨ statement ∈ Block.preorder statements := by
  induction statements with
  | nil => cases member
  | cons first rest ih =>
      cases rest with
      | nil => exact .inr member
      | cons second others =>
          rw [separated_cons_cons, Block.preorder, Block.preorder,
            Statement.preorder, List.mem_append, List.singleton_append,
            List.mem_cons] at member
          rw [Block.preorder, List.mem_append]
          rcases member with inFirst | isSeparator | later
          · exact .inr (.inl inFirst)
          · exact .inl isSeparator
          · exact (ih later).imp id .inr

theorem Action.isAction_kind_generated (service : String) (action : Action) :
    (action.generated service).kind.isAction = true := by
  cases action with
  | recordEvent event mapping => rfl
  | executeRules rules => rfl

theorem Rule.isRule_kind_generated (service : String) (rule : Rule) :
    (rule.generated service).kind.isRule = true := by
  cases rule with
  | always action =>
      cases action with
      | recordEvent event mapping => rfl
      | executeRules rules => rfl
  | condition condition action stop => rfl

theorem Rule.alternates_separated (service : String) (rules : List Rule) :
    separated (Rule.generatedList service rules) = [] ∨
      Block.Alternates (separated (Rule.generatedList service rules)) := by
  induction rules with
  | nil => exact .inl rfl
  | cons rule rest ih =>
      right
      have isRule := Rule.isRule_kind_generated service rule
      cases rest with
      | nil => exact .last isRule
      | cons second others =>
          rw [Rule.generatedList, Rule.generatedList, separated_cons_cons]
          apply Block.Alternates.next isRule
          refine ih.resolve_left fun empty => ?_
          have noLength := congrArg List.length empty
          rw [separated, List.length_intersperse, Rule.generatedList,
            List.length_cons, List.length_nil] at noLength
          omega

mutual

theorem Rule.wellShaped_of_mem_generated (service : String) (rule : Rule) :
    ∀ statement ∈ (rule.generated service).preorder,
      statement.WellShaped := by
  cases rule with
  | always action => exact Action.wellShaped_of_mem_generated service action
  | condition condition action stop =>
      have inner := Action.wellShaped_of_mem_generated service action
      have isAction := Action.isAction_kind_generated service action
      rw [Rule.generated, Statement.preorder, List.forall_mem_cons]
      cases stop with
      | false =>
          refine ⟨⟨_, isAction, .inl rfl⟩, ?_⟩
          simpa [Block.preorder] using inner
      | true =>
          refine ⟨⟨_, isAction, .inr rfl⟩, ?_⟩
          simp only [if_pos, Block.preorder, Statement.preorder,
            List.append_nil, List.forall_mem_append,
            List.forall_mem_singleton]
          exact ⟨inner, trivial⟩

theorem Action.wellShaped_of_mem_generated (service : String)
    (action : Action) :
    ∀ statement ∈ (action.generated service).preorder,
      statement.WellShaped := by
  cases action with
  | recordEvent event mapping =>
      exact List.forall_mem_singleton.mpr trivial
  | executeRules rules =>
      have inner := Rule.wellShaped_of_mem_generatedList service rules
      rw [Action.generated, Statement.preorder, List.forall_mem_cons]
      refine ⟨Rule.alternates_separated service rules, ?_⟩
      intro statement member
      cases mem_preorder_separated member with
      | inl isSeparator => exact isSeparator ▸ trivial
      | inr inRules => exact inner statement inRules

theorem Rule.wellShaped_of_mem_generatedList (service : String)
    (rules : List Rule) :
    ∀ statement ∈ Block.preorder (Rule.generatedList service rules),
      statement.WellShaped := by
  cases rules with
  | nil => exact fun _ member => absurd member List.not_mem_nil
  | cons rule rest =>
      have first := Rule.wellShaped_of_mem_generated service rule
      have others := Rule.wellShaped_of_mem_generatedList service rest
      rw [Rule.generatedList, Block.preorder, List.forall_mem_append]
      exact ⟨first, others⟩

end

/-- The kind of statement that an action is compiled to. -/
def Action.kind : Action → Statement.Kind
  | .recordEvent _ _ => .produce
  | .executeRules _ => .scope

/-- The kinds of the statements that a rule is compiled to, apart from those of
the rules within it. -/
def Rule.kinds : Rule → List Statement.Kind
  | .always action => [action.kind]
  | .condition given action stop =>
      .branch given.negated :: action.kind :: if stop then [.finish] else []

theorem Block.kinds_cons (statement : Statement) (rest : Block) :
    Block.kinds (statement :: rest) =
      Block.kinds [statement] ++ Block.kinds rest := by
  simp [Block.kinds, Block.preorder]

theorem Block.kinds_branch (condition : Condition) (body : Block) :
    Block.kinds [.branch condition body] =
      .branch condition.negated :: Block.kinds body := by
  simp [Block.kinds, Block.preorder, Statement.preorder, Statement.kind]

theorem Block.kinds_scope (body : Block) :
    Block.kinds [.scope body] = .scope :: Block.kinds body := by
  simp [Block.kinds, Block.preorder, Statement.preorder, Statement.kind]

theorem count_kinds_separated {kind : Statement.Kind}
    (notSeparator : kind ≠ .separator) (statements : List Statement) :
    (Block.kinds (separated statements)).count kind =
      (Block.kinds statements).count kind := by
  induction statements with
  | nil => rfl
  | cons first rest ih =>
      cases rest with
      | nil => rfl
      | cons second others =>
          have noSeparator : (Block.kinds [.separator]).count kind = 0 := by
            apply List.count_eq_zero.mpr
            exact fun member => notSeparator (List.mem_singleton.mp member)
          calc (Block.kinds (separated (first :: second :: others))).count kind
              = (Block.kinds [first]).count kind +
                  ((Block.kinds [.separator]).count kind +
                    (Block.kinds (separated (second :: others))).count
                      kind) := by
                rw [separated_cons_cons, Block.kinds_cons first,
                  Block.kinds_cons .separator, List.count_append,
                  List.count_append]
            _ = (Block.kinds (first :: second :: others)).count kind := by
                rw [noSeparator, Nat.zero_add, ih,
                  Block.kinds_cons first (second :: others), List.count_append]

mutual

theorem Rule.count_kinds_generated {kind : Statement.Kind}
    (notSeparator : kind ≠ .separator) (service : String) (rule : Rule) :
    (Block.kinds [rule.generated service]).count kind =
      (rule.preorder.flatMap Rule.kinds).count kind := by
  cases rule with
  | always action =>
      exact Action.count_kinds_generated notSeparator service action
  | condition condition action stop =>
      have acted := Action.count_kinds_generated notSeparator service action
      rw [Rule.generated, Block.kinds_branch, Rule.preorder, List.flatMap_cons,
        Rule.kinds, List.cons_append, List.count_cons, List.count_cons,
        Nat.add_right_cancel_iff]
      cases stop with
      | false => exact acted
      | true =>
          -- The end of the behavior stands behind the nested statements.
          calc (Block.kinds [action.generated service, .finish]).count kind
              = (Block.kinds [action.generated service]).count kind +
                  (Block.kinds [.finish]).count kind := by
                rw [Block.kinds_cons _ [.finish], List.count_append]
            _ = (action.kind ::
                  action.nestedRules.flatMap Rule.kinds).count kind +
                  [Statement.Kind.finish].count kind := by
                rw [acted]
                rfl
            _ = (action.kind :: [.finish] ++
                  action.nestedRules.flatMap Rule.kinds).count kind := by
                simp only [List.cons_append, List.count_cons, List.count_nil,
                  List.nil_append]
                omega

theorem Action.count_kinds_generated {kind : Statement.Kind}
    (notSeparator : kind ≠ .separator) (service : String) (action : Action) :
    (Block.kinds [action.generated service]).count kind =
      (action.kind :: action.nestedRules.flatMap Rule.kinds).count kind := by
  cases action with
  | recordEvent event mapping => rfl
  | executeRules rules =>
      have inner := Rule.count_kinds_generatedList notSeparator service rules
      rw [← count_kinds_separated notSeparator] at inner
      rw [Action.generated, Block.kinds_scope, List.count_cons, inner,
        Action.kind, Action.nestedRules, List.count_cons]

theorem Rule.count_kinds_generatedList {kind : Statement.Kind}
    (notSeparator : kind ≠ .separator) (service : String)
    (rules : List Rule) :
    (Block.kinds (Rule.generatedList service rules)).count kind =
      ((Rule.preorderOf rules).flatMap Rule.kinds).count kind := by
  cases rules with
  | nil => rfl
  | cons rule rest =>
      have first := Rule.count_kinds_generated notSeparator service rule
      have others := Rule.count_kinds_generatedList notSeparator service rest
      rw [Rule.generatedList, Block.kinds_cons, List.count_append, first,
        others, Rule.preorderOf, List.flatMap_append, List.count_append]

end

theorem Rule.count_kinds (kind : Statement.Kind) (rule : Rule) :
    rule.kinds.count kind = if rule.callsFor kind then 1 else 0 := by
  cases rule with
  | always action =>
      cases action <;> cases kind <;>
        simp [Rule.kinds, Action.kind, Rule.callsFor, Rule.action,
          Action.records, Action.executes]
  | condition condition action stop =>
      cases action <;> cases stop <;> cases kind <;>
        simp [Rule.kinds, Action.kind, Rule.callsFor, Rule.action,
          Action.records, Action.executes, List.count_cons]

theorem Rule.count_flatMap_kinds (kind : Statement.Kind) (rules : List Rule) :
    (rules.flatMap Rule.kinds).count kind =
      rules.countP (Rule.callsFor kind) := by
  induction rules with
  | nil => rfl
  | cons rule rest ih =>
      rw [List.flatMap_cons, List.count_append, ih, Rule.count_kinds,
        List.countP_cons, Nat.add_comm]

/-- The shape of the block that rules and variables are compiled to. -/
structure CompiledShape (rules : List Rule) (declared : List Variable)
    (block : Block) : Prop where
  length : block.length = 2 * rules.length + 1
  declaration : block[0]? = some (.declareVariables
    (declared.map fun entry => (entry.name, entry.initializer)))
  proper : ProperNames declared
  declaredOnce : (Block.kinds block).count .declaration = 1
  separators : ∀ index < rules.length,
    block[2 * index + 1]? = some .separator
  statements : ∀ index < rules.length, ∃ statement,
    block[2 * index + 2]? = some statement ∧ statement.kind.isRule = true
  branches : ∀ condition body, .branch condition body ∈ Block.preorder block →
    ∃ acted, acted.kind.isAction = true ∧
      (body = [acted] ∨ body = [acted, .finish])
  scopes : ∀ body, .scope body ∈ Block.preorder block →
    body = [] ∨ Block.Alternates body
  finishes : ∀ body, body = block ∨ .scope body ∈ Block.preorder block →
    .finish ∉ body
  counts : ∀ kind, kind ≠ .declaration → kind ≠ .separator →
    (Block.kinds block).count kind =
      (Rule.preorderOf rules).countP (Rule.callsFor kind)

theorem Block.Alternates.finish_not_mem {body : Block}
    (alternates : Block.Alternates body) : .finish ∉ body := by
  induction alternates with
  | last isRule =>
      intro member
      cases List.mem_singleton.mp member
      cases isRule
  | next isRule _ ih =>
      intro member
      rcases List.mem_cons.mp member with isFirst | later
      · cases isFirst
        cases isRule
      · cases later with
        | tail _ inRest => exact ih inRest

theorem Rule.length_generatedList (service : String) (rules : List Rule) :
    (Rule.generatedList service rules).length = rules.length := by
  induction rules with
  | nil => rfl
  | cons rule rest ih =>
      rw [Rule.generatedList, List.length_cons, ih, List.length_cons]

theorem Rule.isRule_kind_of_mem_generatedList {service : String}
    {rules : List Rule} {statement : Statement}
    (member : statement ∈ Rule.generatedList service rules) :
    statement.kind.isRule = true := by
  induction rules with
  | nil => cases member
  | cons rule rest ih =>
      rcases List.mem_cons.mp member with isFirst | later
      · rw [isFirst]
        exact Rule.isRule_kind_generated service rule
      · exact ih later

theorem wellShaped_of_mem_generatedBlock {service : String}
    {rules : List Rule} {declared : List Variable} {statement : Statement}
    (member : statement ∈
      Block.preorder (generatedBlock service rules declared)) :
    statement.WellShaped := by
  rw [generatedBlock, Block.preorder, Block.preorder, declareVariables,
    Statement.preorder, Statement.preorder, List.singleton_append,
    List.singleton_append, List.mem_cons, List.mem_cons] at member
  rcases member with isDeclaration | isSeparator | inRules
  · exact isDeclaration ▸ trivial
  · exact isSeparator ▸ trivial
  · cases mem_preorder_separated inRules with
    | inl isSeparator => exact isSeparator ▸ trivial
    | inr inRules =>
        exact Rule.wellShaped_of_mem_generatedList service rules _ inRules

theorem count_kinds_generatedBlock {kind : Statement.Kind}
    (notSeparator : kind ≠ .separator) (service : String) (rules : List Rule)
    (declared : List Variable) :
    (Block.kinds (generatedBlock service rules declared)).count kind =
      [Statement.Kind.declaration].count kind +
        (Rule.preorderOf rules).countP (Rule.callsFor kind) := by
  have noSeparator : (Block.kinds [.separator]).count kind = 0 := by
    apply List.count_eq_zero.mpr
    exact fun member => notSeparator (List.mem_singleton.mp member)
  rw [generatedBlock, Block.kinds_cons, Block.kinds_cons .separator,
    List.count_append, List.count_append, noSeparator, Nat.zero_add,
    count_kinds_separated notSeparator,
    Rule.count_kinds_generatedList notSeparator, Rule.count_flatMap_kinds]
  rfl

theorem finish_not_mem_generatedBlock (service : String) (rules : List Rule)
    (declared : List Variable) :
    .finish ∉ generatedBlock service rules declared := by
  intro member
  cases member with
  | tail _ behind =>
      cases behind with
      | tail _ inRules =>
          rcases Rule.alternates_separated service rules with
            empty | alternates
          · rw [empty] at inRules
            cases inRules
          · exact alternates.finish_not_mem inRules

theorem compiledShape_generatedBlock {rules : List Rule}
    {declared : List Variable} (nonempty : rules ≠ [])
    (proper : ProperNames declared) (service : String) :
    CompiledShape rules declared (generatedBlock service rules declared) where
  length := by
    have positive := List.length_pos_iff.mpr nonempty
    rw [generatedBlock, List.length_cons, List.length_cons, separated,
      List.length_intersperse, Rule.length_generatedList]
    omega
  declaration := rfl
  proper := proper
  declaredOnce := by
    have noRule : (Rule.preorderOf rules).countP
        (Rule.callsFor .declaration) = 0 := by
      apply List.countP_eq_zero.mpr
      intro rule _
      exact Bool.false_ne_true
    rw [count_kinds_generatedBlock (by decide), noRule]
    rfl
  separators := by
    intro index within
    cases index with
    | zero => rfl
    | succ previous =>
        change (separated _)[2 * previous + 1]? = _
        apply List.getElem?_intersperse_two_mul_add_one
        rw [Rule.length_generatedList]
        exact within
  statements := by
    intro index within
    have bounded : index < (Rule.generatedList service rules).length := by
      rw [Rule.length_generatedList]
      exact within
    refine ⟨(Rule.generatedList service rules)[index], ?_, ?_⟩
    · change (separated _)[2 * index]? = _
      rw [separated, List.getElem?_intersperse_two_mul,
        List.getElem?_eq_getElem bounded]
    · exact Rule.isRule_kind_of_mem_generatedList (List.getElem_mem bounded)
  branches condition body member := wellShaped_of_mem_generatedBlock member
  scopes body member := wellShaped_of_mem_generatedBlock member
  finishes := by
    rintro body (rfl | inner)
    · exact finish_not_mem_generatedBlock service rules declared
    · rcases wellShaped_of_mem_generatedBlock inner with rfl | alternates
      · exact List.not_mem_nil
      · exact alternates.finish_not_mem
  counts kind notDeclaration notSeparator := by
    rw [count_kinds_generatedBlock notSeparator, List.count_eq_zero.mpr,
      Nat.zero_add]
    exact fun member => notDeclaration (List.mem_singleton.mp member)

/-- Every block that compilation gives for at least one rule has this shape. -/
theorem compiledShape_of_compile {node : Node} {model : Model}
    {rules : List Rule} {declared : List Variable} {block : Block}
    (nonempty : rules ≠ [])
    (compiled : compile node model rules declared = .ok block) :
    CompiledShape rules declared block := by
  obtain ⟨checked, -, rfl⟩ := (compile_eq_ok_iff nonempty).mp compiled
  exact compiledShape_generatedBlock nonempty
    (checkVariables_eq_ok_iff.mp checked).1 (model.serviceClass node)

/-- Two rules, and two more within the first one, of which one stops the
behavior under a negated condition. -/
theorem compiledShape_of_sample_rules :
    let block := generatedBlock "Orders" Sample.rules Sample.declared
    Sample.rules ≠ [] ∧
      compile Sample.order Sample.orders Sample.rules Sample.declared =
        .ok block ∧
      CompiledShape Sample.rules Sample.declared block ∧
      block.length = 5 ∧
      (Block.kinds block).count (.branch true) = 1 ∧
      (Block.kinds block).count .finish = 1 ∧
      (Block.kinds block).count .produce = 3 ∧
      (Block.kinds block).count .scope = 1 := by
  have nonempty : Sample.rules ≠ [] := List.cons_ne_nil _ _
  have shape := compiledShape_of_compile nonempty Sample.compile_rules
  refine ⟨nonempty, Sample.compile_rules, shape, shape.length, ?_, ?_, ?_, ?_⟩
  · rw [shape.counts _ (by decide) (by decide)]
    rfl
  · rw [shape.counts _ (by decide) (by decide)]
    rfl
  · rw [shape.counts _ (by decide) (by decide)]
    rfl
  · rw [shape.counts _ (by decide) (by decide)]
    rfl

end AggregateRules
