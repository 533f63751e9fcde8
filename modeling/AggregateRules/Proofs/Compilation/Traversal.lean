import AggregateRules.Proofs.Compilation.BlockShape

/-!
# The log follows the rules

Compilation descends into rules within rules, but what it checks and tells on
the way is one loop over all rules in the order of the text, see
`statements_eq_visits`. So the log of a compilation lists these rules up to the
one at which the compilation fails, and all of them if it does not fail.
-/

namespace AggregateRules

namespace Logged

variable {α : Type} (entry : α → LogEntry)
  (check : α → Except CompileError Unit)

/-- Tells about an item and checks it. -/
def visit (item : α) : Logged Unit := do
  tell (entry item)
  lift (check item)

theorem entries_visit_bind_of_ok {item : α}
    (passed : check item = .ok ()) (next : Unit → Logged β) :
    visit entry check item >>= next =
      ⟨entry item :: (next ()).entries, (next ()).outcome⟩ := by
  rw [visit, passed]
  rfl

theorem visit_bind_of_error {item : α} {error : CompileError}
    (failed : check item = .error error) (next : Unit → Logged β) :
    visit entry check item >>= next = ⟨[entry item], .error error⟩ := by
  rw [visit, failed]
  rfl

/-- Items that all pass their checks are all told about. -/
theorem forM_visit_of_ok {items : List α}
    (passed : ∀ item ∈ items, check item = .ok ()) :
    forM items (visit entry check) = ⟨items.map entry, .ok ()⟩ := by
  induction items with
  | nil => rfl
  | cons item rest ih =>
      obtain ⟨first, others⟩ := List.forall_mem_cons.mp passed
      rw [List.forM_cons, entries_visit_bind_of_ok entry check first,
        ih others]
      rfl

/-- The first item that fails its check is the last one that is told about. -/
theorem forM_visit_of_error {before after : List α} {item : α}
    {error : CompileError}
    (passed : ∀ earlier ∈ before, check earlier = .ok ())
    (failed : check item = .error error) :
    forM (before ++ item :: after) (visit entry check) =
      ⟨(before ++ [item]).map entry, .error error⟩ := by
  rw [List.forM_append, forM_visit_of_ok entry check passed, List.forM_cons,
    visit_bind_of_error entry check failed, List.map_append]
  rfl

end Logged

/-- What is told about a rule when the compilation comes to it. -/
def Rule.entry : Rule → LogEntry
  | .always _ => .alwaysRule
  | .condition given _ stop => .conditionRule given.test given.negated stop

/-- The check of what an action does itself. Rules within it have checks of
their own. -/
def Action.check (node : Node) (model : Model) :
    Action → Except CompileError Unit
  | .recordEvent event _ => Compilation.checkEvent node model event
  | .executeRules _ => .ok ()

/-- The error of a rule's own action, apart from the rules within it. -/
def Rule.Fault (node : Node) (model : Model) (rule : Rule)
    (error : CompileError) : Prop :=
  ∃ event mapping, rule.action = .recordEvent event mapping ∧
    EventFault node model event error

/-- Whether some rules end with the first one that has a fault. -/
def EndsAtFault (node : Node) (model : Model) (reached : List Rule)
    (error : CompileError) : Prop :=
  ∃ before rule, reached = before ++ [rule] ∧
    (∀ earlier ∈ before, ∀ other, ¬ earlier.Fault node model other) ∧
    rule.Fault node model error

open Compilation Logged

namespace Compilation

variable (node : Node) (model : Model)

def visitRule : Rule → Logged Unit :=
  visit Rule.entry fun rule => rule.action.check node model

theorem lift_map (outcome : Except CompileError α) (change : α → β) :
    lift (outcome.map change) =
      lift outcome >>= fun value => pure (change value) := by
  cases outcome <;> rfl

theorem lift_ok_bind (value : α) (next : α → Logged β) :
    lift (.ok value) >>= next = next value :=
  rfl

mutual

theorem statement_eq_visits (rule : Rule) :
    statement node model rule =
      forM rule.preorder (visitRule node model) >>= fun _ =>
        pure (rule.generated (model.serviceClass node)) := by
  cases rule with
  | always action =>
      have acted := actionStatement_eq_visits action
      rw [statement, Rule.preorder, List.forM_cons, visitRule, visit, acted]
      simp only [bind_assoc]
      rfl
  | condition given action stop =>
      have acted := actionStatement_eq_visits action
      rw [statement, Rule.preorder, List.forM_cons, visitRule, visit, acted]
      simp only [bind_assoc, pure_bind]
      rfl

theorem actionStatement_eq_visits (action : Action) :
    actionStatement node model action =
      lift (action.check node model) >>= fun _ =>
        forM action.nestedRules (visitRule node model) >>= fun _ =>
          pure (action.generated (model.serviceClass node)) := by
  cases action with
  | recordEvent event mapping =>
      rw [actionStatement, recordEvent_eq_map_checkEvent, lift_map,
        Action.nestedRules, List.forM_nil]
      rfl
  | executeRules rules =>
      have executed := statements_eq_visits rules
      rw [actionStatement, executed, Action.check, lift_ok_bind, bind_assoc]
      rfl

/-- The statements of rules are those of a loop over all rules, nested ones
included. -/
theorem statements_eq_visits (rules : List Rule) :
    statements node model rules =
      forM (Rule.preorderOf rules) (visitRule node model) >>= fun _ =>
        pure (Rule.generatedList (model.serviceClass node) rules) := by
  cases rules with
  | nil => rfl
  | cons rule rest =>
      have first := statement_eq_visits rule
      have others := statements_eq_visits rest
      rw [statements, Rule.preorderOf, List.forM_append, first, others]
      simp only [bind_assoc, pure_bind]
      rfl

end

theorem check_eq_error_iff {rule : Rule} {error : CompileError} :
    rule.action.check node model = .error error ↔
      rule.Fault node model error := by
  unfold Rule.Fault
  cases rule.action with
  | recordEvent event mapping =>
      rw [Action.check, checkEvent_eq_error_iff]
      constructor
      · exact fun fault => ⟨event, mapping, rfl, fault⟩
      · rintro ⟨_, _, recorded, fault⟩
        cases recorded
        exact fault
  | executeRules rules =>
      constructor
      · intro failed
        cases failed
      · rintro ⟨_, _, recorded, _⟩
        cases recorded

theorem not_fault_of_check {rule : Rule}
    (passed : rule.action.check node model = .ok ()) (error : CompileError) :
    ¬ rule.Fault node model error := by
  intro fault
  cases passed.symm.trans ((check_eq_error_iff node model).mpr fault)

/-- The loop over some rules visits all of them, or it ends at a fault. -/
theorem visits_all_or_endsAtFault (rules : List Rule) :
    forM rules (visitRule node model) = ⟨rules.map Rule.entry, .ok ()⟩ ∨
      ∃ reached error, reached <+: rules ∧
        EndsAtFault node model reached error ∧
        forM rules (visitRule node model) =
          ⟨reached.map Rule.entry, .error error⟩ := by
  cases checked : forM rules fun rule : Rule =>
      rule.action.check node model with
  | ok passed =>
      left
      exact forM_visit_of_ok _ _ (forM_eq_ok_iff.mp checked)
  | error error =>
      right
      obtain ⟨before, rule, after, rfl, passed, failed⟩ :=
        forM_eq_error_iff.mp checked
      refine ⟨before ++ [rule], error, ⟨after, by simp⟩, ?_, ?_⟩
      · have fault := (check_eq_error_iff node model).mp failed
        refine ⟨before, rule, rfl, ?_, fault⟩
        intro earlier member
        exact not_fault_of_check node model (passed earlier member)
      · exact forM_visit_of_error _ _ passed failed

section

variable {node : Node} {model : Model} {rules : List Rule}
  {declared : List Variable}

theorem block_of_variableFault {error : CompileError}
    (fault : FirstVariableFault node declared error) :
    block node model rules declared = ⟨[], .error error⟩ := by
  rw [block, checkVariables_of_firstFault fault]
  rfl

theorem block_of_proper (proper : ProperNames declared) :
    block node model rules declared =
      forM (Rule.preorderOf rules) (visitRule node model) >>= fun _ =>
        pure (generatedBlock (model.serviceClass node) rules declared) := by
  have passed : checkVariables node [] declared = .ok () :=
    checkVariables_eq_ok_iff.mpr ⟨proper, by simp⟩
  rw [block, passed, statements_eq_visits, lift_ok_bind, bind_assoc]
  rfl

theorem run_of_block_ok (nonempty : rules ≠ []) {told : List LogEntry}
    {statements : Block}
    (compiled : block node model rules declared = ⟨told, .ok statements⟩) :
    run node model rules declared =
      ⟨.started rules.length declared.length :: told ++
        [.compiled statements.length], .ok statements⟩ := by
  cases rules with
  | nil => exact absurd rfl nonempty
  | cons rule rest => simp only [run, compiled]

theorem run_of_block_error (nonempty : rules ≠ []) {told : List LogEntry}
    {error : CompileError}
    (failed : block node model rules declared = ⟨told, .error error⟩) :
    run node model rules declared =
      ⟨.started rules.length declared.length :: told ++ [.failed error],
        .error error⟩ := by
  cases rules with
  | nil => exact absurd rfl nonempty
  | cons rule rest => simp only [run, failed]

end

end Compilation

/-- What a compilation of rules and variables tells. It lists the rules that the
compilation comes to, between a first and a last entry. -/
structure CompilationLog (node : Node) (model : Model) (rules : List Rule)
    (declared : List Variable) (reached : List Rule) (last : LogEntry) :
    Prop where
  entries : (Compilation.run node model rules declared).entries =
    .started rules.length declared.length :: reached.map Rule.entry ++ [last]
  levels :
    (Compilation.run node model rules declared).entries.map LogEntry.level =
      .debug :: List.replicate reached.length .trace ++ [.debug]
  inOrder : reached <+: Rule.preorderOf rules
  succeeded : ∀ block, compile node model rules declared = .ok block →
    reached = Rule.preorderOf rules ∧
      last = .compiled (2 * rules.length + 1)
  failed : ∀ error, compile node model rules declared = .error error →
    last = .failed error ∧ last.values = [("error", .text error.message)] ∧
      (FirstVariableFault node declared error ∧ reached = [] ∨
        ProperNames declared ∧ EndsAtFault node model reached error)

theorem Rule.map_level_entry (rules : List Rule) :
    (rules.map Rule.entry).map LogEntry.level =
      List.replicate rules.length .trace := by
  rw [List.map_map, List.eq_replicate_iff]
  refine ⟨List.length_map .., ?_⟩
  intro level member
  obtain ⟨rule, _, rfl⟩ := List.mem_map.mp member
  cases rule <;> rfl

section

variable {node : Node} {model : Model} {rules : List Rule}
  {declared : List Variable} {reached : List Rule}

theorem compilationLog_of_ok (nonempty : rules ≠ [])
    (proper : ProperNames declared)
    (visited : forM (Rule.preorderOf rules) (visitRule node model) =
      ⟨(Rule.preorderOf rules).map Rule.entry, .ok ()⟩) :
    CompilationLog node model rules declared (Rule.preorderOf rules)
      (.compiled (2 * rules.length + 1)) := by
  have compiled : block node model rules declared =
      ⟨(Rule.preorderOf rules).map Rule.entry,
        .ok (generatedBlock (model.serviceClass node) rules declared)⟩ := by
    rw [block_of_proper proper, visited]
    simp [bind, Logged.andThen, pure, Logged.result]
  have length := (compiledShape_generatedBlock nonempty proper
    (model.serviceClass node)).length
  have ran := run_of_block_ok nonempty compiled
  rw [length] at ran
  constructor
  · rw [ran]
  · rw [ran, List.map_append, List.map_cons, Rule.map_level_entry]
    rfl
  · exact List.prefix_refl _
  · exact fun _ _ => ⟨rfl, rfl⟩
  · intro error failed
    rw [compile, ran] at failed
    cases failed

theorem compilationLog_of_error (nonempty : rules ≠ [])
    (inOrder : reached <+: Rule.preorderOf rules) {error : CompileError}
    (stopped : block node model rules declared =
      ⟨reached.map Rule.entry, .error error⟩)
    (cause : FirstVariableFault node declared error ∧ reached = [] ∨
      ProperNames declared ∧ EndsAtFault node model reached error) :
    CompilationLog node model rules declared reached (.failed error) := by
  have ran := run_of_block_error nonempty stopped
  constructor
  · rw [ran]
  · rw [ran, List.map_append, List.map_cons, Rule.map_level_entry]
    rfl
  · exact inOrder
  · intro block compiled
    rw [compile, ran] at compiled
    cases compiled
  · intro other failed
    rw [compile, ran] at failed
    cases failed
    exact ⟨rfl, rfl, cause⟩

end

/-- Without rules, a compilation tells this alone. Otherwise it tells about
rules in the order of the text, nested ones included: about all of them if it
succeeds, about none if a variable is at fault, and up to the rule that records
the first event at fault. -/
theorem log_follows_rules (node : Node) (model : Model) (rules : List Rule)
    (declared : List Variable) :
    (rules = [] →
        (Compilation.run node model rules declared).entries = [.noRules] ∧
          LogEntry.noRules.level = .debug) ∧
      (rules ≠ [] → ∃ reached last,
        CompilationLog node model rules declared reached last) := by
  constructor
  · rintro rfl
    exact ⟨rfl, rfl⟩
  · intro nonempty
    by_cases proper : ProperNames declared
    · rcases visits_all_or_endsAtFault node model (Rule.preorderOf rules) with
        visited | ⟨reached, error, inOrder, atFault, visited⟩
      · exact ⟨_, _, compilationLog_of_ok nonempty proper visited⟩
      · refine ⟨_, _, compilationLog_of_error nonempty inOrder ?_
          (.inr ⟨proper, atFault⟩)⟩
        rw [block_of_proper proper, visited]
        rfl
    · obtain ⟨error, fault⟩ := exists_firstVariableFault_iff.mpr proper
      exact ⟨_, _, compilationLog_of_error nonempty (List.nil_prefix)
        (block_of_variableFault fault) (.inl ⟨fault, rfl⟩)⟩

/-- The log ends with the nested rule that records the unconnected event, and
the rule behind it is not told about. -/
theorem broken_rules_log :
    Sample.brokenRules ≠ [] ∧ (Rule.preorderOf Sample.brokenRules).length = 7 ∧
      ∃ reached, CompilationLog Sample.order Sample.orders Sample.brokenRules
          Sample.declared reached
          (.failed (.eventNotConnected "aggregate 'Order'" "Shipped")) ∧
        reached.length = 6 := by
  have nonempty : Sample.brokenRules ≠ [] := List.cons_ne_nil _ _
  have ⟨failed, told⟩ : compile Sample.order Sample.orders Sample.brokenRules
        Sample.declared =
          .error (.eventNotConnected "aggregate 'Order'" "Shipped") ∧
      (run Sample.order Sample.orders Sample.brokenRules
        Sample.declared).entries.length = 8 := by
    decide +kernel
  obtain ⟨reached, last, log⟩ := (log_follows_rules Sample.order Sample.orders
    Sample.brokenRules Sample.declared).2 nonempty
  obtain ⟨rfl, -, -⟩ := log.failed _ failed
  refine ⟨nonempty, rfl, reached, log, ?_⟩
  rw [log.entries] at told
  simpa using told

end AggregateRules
