import AggregateRules.Configuration.Written
import AggregateRules.Proofs.Configuration.Phases

/-!
# Configurations are read as they are written

Rules and variables that are written in a configuration are read back as they
were, with the fields of each mapping in their order. So it makes no difference
whether a behavior is compiled from its rules and variables, from its
configuration, or after it was collected call by call.
-/

namespace AggregateRules

namespace Configuration

theorem denotesMapping_toJson (mapping : Mapping) :
    DenotesMapping mapping.toJson mapping := by
  cases mapping with
  | expression value => exact .expression
  | fields fields =>
      have same : Mapping.ofFields fields.entries = .fields fields := by
        rw [Mapping.ofFields, OrderedMap.ofList_entries]
      have denotes : DenotesMapping (.object (fieldMembers fields.entries))
          (.ofFields fields.entries) := .fields
      rw [same] at denotes
      exact denotes

def conditionMembers (given : Condition) (action : Json) (stop : Bool) :
    List (String × Json) :=
  [("type", .string "condition"), given.member, ("then", action),
    ("stop", .bool stop)]

theorem denotesCondition_conditionMembers (given : Condition) (action : Json)
    (stop : Bool) :
    DenotesCondition (conditionMembers given action stop) given := by
  obtain ⟨test, negated⟩ := given
  cases negated with
  | false => exact .positive rfl (.inl rfl)
  | true => exact .negative (.inl rfl) rfl

theorem lookup_then_conditionMembers (given : Condition) (action : Json)
    (stop : Bool) :
    (conditionMembers given action stop).lookup "then" = some action := by
  obtain ⟨test, negated⟩ := given
  cases negated <;> rfl

theorem denotesStop_conditionMembers (given : Condition) (action : Json)
    (stop : Bool) :
    DenotesStop (conditionMembers given action stop) stop := by
  obtain ⟨test, negated⟩ := given
  cases negated <;> exact .given rfl

mutual

theorem denotesItems_listToJson (rules : List Rule) :
    DenotesItems (Rule.listToJson rules) rules := by
  cases rules with
  | nil =>
      rw [Rule.listToJson]
      exact .nil
  | cons rule rest =>
      rw [Rule.listToJson]
      exact .cons (denotesRule_toJson rule) (denotesItems_listToJson rest)

theorem denotesRule_toJson (rule : Rule) : DenotesRule rule.toJson rule := by
  cases rule with
  | always action =>
      rw [Rule.toJson]
      exact .always rfl rfl (denotesAction_toJson action)
  | condition given action stops =>
      have shape : (Rule.condition given action stops).toJson =
          .object (conditionMembers given action.toJson stops) := by
        rw [Rule.toJson]
        rfl
      rw [shape]
      exact .condition rfl (denotesCondition_conditionMembers given _ _)
        (lookup_then_conditionMembers given _ _) (denotesAction_toJson action)
        (denotesStop_conditionMembers given _ _)

theorem denotesAction_toJson (action : Action) :
    DenotesAction action.toJson action := by
  cases action with
  | recordEvent event mapping =>
      rw [Action.toJson]
      exact .recordEvent rfl (.record rfl rfl (denotesMapping_toJson mapping))
  | executeRules rules =>
      rw [Action.toJson]
      exact .executeRules rfl rfl
        (.rules rfl (.array (denotesItems_listToJson rules)))

end

section

variable (node : Node)

theorem readRules_written (rules : List Rule) :
    readRules node (.array (Rule.listToJson rules)) = .ok rules :=
  readRules_eq_ok node (.array (denotesItems_listToJson rules))

theorem mapM_ofJson_toJson (declared : List Variable) :
    (declared.map Variable.saved.toJson).mapM Variable.saved.ofJson =
      .ok declared := by
  induction declared with
  | nil => rfl
  | cons entry rest ih =>
      have first :
          Variable.saved.ofJson (Variable.saved.toJson entry) = .ok entry := rfl
      rw [List.map_cons, List.mapM_cons, first, ih]
      rfl

theorem readVariables_written (declared : List Variable) :
    readVariables node (.array (declared.map Variable.saved.toJson)) =
      .ok declared := by
  rw [readVariables, mapM_ofJson_toJson]
  rfl

end

theorem compile_ofBehavior (node : Node) (model : Model)
    (behavior : Behavior) :
    compile node model (ofBehavior behavior) =
      AggregateRules.compile node model behavior.rules behavior.declared := by
  have rulesRead := readRules_written node behavior.rules
  have declaredRead := readVariables_written node behavior.declared
  rw [compile_eq_bind]
  simp only [ofBehavior, rulesRead, declaredRead, Except.bind]
  cases behavior.rules with
  | nil => rfl
  | cons rule rest => rfl

end Configuration

namespace Behavior

/-- A call that collects variables or rules of a behavior. -/
inductive Call where
  | declare (entry : Variable)
  | addRule (rule : Rule)
  | addRules (rules : List Rule)

namespace Call

def apply (behavior : Behavior) : Call → Behavior
  | .declare entry => behavior.declare entry
  | .addRule rule => behavior.addRule rule
  | .addRules rules => behavior.addRules rules

def declared : Call → List Variable
  | .declare entry => [entry]
  | .addRule _ | .addRules _ => []

def rules : Call → List Rule
  | .declare _ => []
  | .addRule rule => [rule]
  | .addRules rules => rules

theorem apply_eq (behavior : Behavior) (call : Call) :
    apply behavior call =
      ⟨behavior.declared ++ call.declared, behavior.rules ++ call.rules⟩ := by
  cases call with
  | declare entry => simp [apply, Behavior.declare, declared, rules]
  | addRule rule =>
      simp [apply, Behavior.addRule, Behavior.addRules, declared, rules]
  | addRules added => simp [apply, Behavior.addRules, declared, rules]

end Call

/-- The behavior that is collected by calls, one after the other. -/
def collect (calls : List Call) : Behavior :=
  calls.foldl Call.apply empty

theorem foldl_apply (behavior : Behavior) (calls : List Call) :
    calls.foldl Call.apply behavior =
      ⟨behavior.declared ++ calls.flatMap Call.declared,
        behavior.rules ++ calls.flatMap Call.rules⟩ := by
  induction calls generalizing behavior with
  | nil => simp
  | cons call rest ih =>
      rw [List.foldl_cons, ih, Call.apply_eq]
      simp only [List.flatMap_cons, List.append_assoc]

theorem collect_eq (calls : List Call) :
    collect calls =
      ⟨calls.flatMap Call.declared, calls.flatMap Call.rules⟩ := by
  rw [collect, foldl_apply]
  rfl

end Behavior

/-- All ways to a block agree, also in their errors: rules and variables are
read back from a configuration as they were written, and the configuration and
each sequence of calls that collects them are compiled like the rules and
variables themselves. Without rules each of them gives the empty block, whatever
is wrong with the variables. -/
theorem all_ways_compile_alike (node : Node) (model : Model)
    (declared : List Variable) (rules : List Rule) :
    Configuration.readRules node
        (Configuration.ofBehavior ⟨declared, rules⟩).rules = .ok rules ∧
      Configuration.readVariables node
        (Configuration.ofBehavior ⟨declared, rules⟩).declared =
          .ok declared ∧
      Configuration.compile node model
          (Configuration.ofBehavior ⟨declared, rules⟩) =
        compile node model rules declared ∧
      (∀ calls : List Behavior.Call,
        calls.flatMap Behavior.Call.declared = declared →
        calls.flatMap Behavior.Call.rules = rules →
        (Behavior.collect calls).compile node model =
          compile node model rules declared) ∧
      (rules = [] → compile node model rules declared = .ok []) := by
  refine ⟨?_, ?_, ?_, ?_, ?_⟩
  · exact Configuration.readRules_written node rules
  · exact Configuration.readVariables_written node declared
  · exact Configuration.compile_ofBehavior node model ⟨declared, rules⟩
  · rintro calls rfl rfl
    rw [Behavior.collect_eq]
    rfl
  · rintro rfl
    rfl

/-- Calls for variables between the calls for rules. -/
def Sample.calls : List Behavior.Call :=
  [.addRules (Sample.rules.take 1), .declare ⟨"sum", ⟨"price * quantity"⟩⟩,
    .addRules [], .declare ⟨"unit price", ⟨"sum / quantity"⟩⟩,
    .addRule (.always (.recordEvent "ORDER_PLACED" (.expression ⟨"rest"⟩)))]

theorem sample_calls_compile_alike :
    (Behavior.collect Sample.calls).compile Sample.order Sample.orders =
      .ok (generatedBlock "Orders" Sample.rules Sample.declared) := by
  have alike := all_ways_compile_alike Sample.order Sample.orders
    Sample.declared Sample.rules
  rw [alike.2.2.2.1 Sample.calls rfl rfl]
  exact Sample.compile_rules

end AggregateRules
