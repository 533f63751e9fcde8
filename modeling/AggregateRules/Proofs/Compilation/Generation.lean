import AggregateRules.Compilation.Basic

/-!
# Checks and generated code

Compilation checks and generates in one pass. Here the two are taken apart: the
events that rules record are checked one after the other, and the block that
comes out depends on the rules, the variables and the class name of the service
alone. The model only decides whether there is a block, see `compile_of_ne_nil`.
-/

namespace AggregateRules

/-- The class name of the service of a node. It is empty where the model does
not know the service, and then no event of the node can be recorded. -/
def Model.serviceClass (model : Model) (node : Node) : String :=
  match model.owningService node with
  | .ok label => Label.className label
  | .error _ => ""

mutual

/-- The statement of a rule, its events being handed out for a service. -/
def Rule.generated (service : String) : Rule → Statement
  | .always action => action.generated service
  | .condition condition action stop =>
      .branch condition
        (if stop then [action.generated service, .finish]
          else [action.generated service])

def Action.generated (service : String) : Action → Statement
  | .recordEvent event mapping =>
      .produce service (Label.className event) (Compilation.payload mapping)
  | .executeRules rules =>
      .scope (Compilation.separated (Rule.generatedList service rules))

def Rule.generatedList (service : String) : List Rule → List Statement
  | [] => []
  | rule :: rest => rule.generated service :: Rule.generatedList service rest

end

/-- The block of a behavior that has rules. -/
def generatedBlock (service : String) (rules : List Rule)
    (declared : List Variable) : Block :=
  Compilation.declareVariables declared :: .separator ::
    Compilation.separated (Rule.generatedList service rules)

section Checks

variable {α ε : Type} {check : α → Except ε Unit} {items : List α} {error : ε}

theorem forM_eq_ok_iff :
    forM items check = .ok () ↔ ∀ item ∈ items, check item = .ok () := by
  induction items with
  | nil => simp [pure, Except.pure]
  | cons item rest ih =>
      rw [List.forM_cons, List.forall_mem_cons, ← ih]
      cases check item with
      | error error => simp [bind, Except.bind]
      | ok value => simp [bind, Except.bind]

theorem forM_eq_error_iff :
    forM items check = .error error ↔
      ∃ before item after, items = before ++ item :: after ∧
        (∀ earlier ∈ before, check earlier = .ok ()) ∧
        check item = .error error := by
  constructor
  · intro failed
    induction items with
    | nil => simp [pure, Except.pure] at failed
    | cons item rest ih =>
        rw [List.forM_cons] at failed
        cases checked : check item with
        | error other =>
            rw [checked] at failed
            cases failed
            exact ⟨[], item, rest, rfl, by simp, checked⟩
        | ok value =>
            rw [checked] at failed
            obtain ⟨before, later, after, split, passed, bad⟩ := ih failed
            refine ⟨item :: before, later, after, by simp [split], ?_, bad⟩
            exact List.forall_mem_cons.mpr ⟨checked, passed⟩
  · rintro ⟨before, item, after, rfl, passed, bad⟩
    rw [List.forM_append, forM_eq_ok_iff.mpr passed, List.forM_cons, bad]
    rfl

end Checks

namespace Compilation

@[simp] theorem askModel_ok (value : α) :
    askModel (.ok value) = .ok value :=
  rfl

@[simp] theorem askModel_error (diagnostic : Diagnostic) :
    askModel (.error diagnostic : Except Diagnostic α) =
      .error (.collaborator diagnostic) :=
  rfl

variable (node : Node) (model : Model)

/-- The checks of an event. What is recorded with the event plays no part in
them. -/
def checkEvent (event : String) : Except CompileError Unit :=
  (recordEvent node model event (.fields .empty)).map fun _ => ()

theorem eq_className_of_usable {node : Node} {label className : String}
    (usable : usableClassName node label = .ok className) :
    className = Label.className label := by
  unfold usableClassName at usable
  dsimp only at usable
  split at usable
  · cases usable
    rfl
  · cases usable

/-- An event that passes its checks has the class of a target of the node, and
so the class of its own name. -/
theorem recordEvent_eq_map_checkEvent (event : String) (mapping : Mapping) :
    recordEvent node model event mapping =
      (checkEvent node model event).map fun _ =>
        .produce (model.serviceClass node) (Label.className event)
          (payload mapping) := by
  unfold checkEvent recordEvent Model.serviceClass
  cases model.owningService node with
  | error diagnostic => rfl
  | ok service =>
      simp only [askModel_ok, bind, Except.bind]
      split
      · rfl
      · cases model.outgoingTargets node .event with
        | error diagnostic => rfl
        | ok targets =>
            simp only [askModel_ok]
            cases found : targets.find? fun target =>
                Label.sameClass target.name event with
            | none => rfl
            | some target =>
                have sameClass : Label.sameClass target.name event = true :=
                  List.find?_some (p := fun target : Node =>
                    Label.sameClass target.name event) found
                have same :
                    Label.className target.name = Label.className event :=
                  eq_of_beq sameClass
                simp only
                cases usableService : usableClassName node service with
                | error error => rfl
                | ok serviceClass =>
                    cases usableTarget : usableClassName node target.name with
                    | error error => rfl
                    | ok eventClass =>
                        rw [eq_className_of_usable usableService,
                          eq_className_of_usable usableTarget, same]
                        rfl

mutual

theorem outcome_statement (rule : Rule) :
    (statement node model rule).outcome =
      (forM rule.recordedEvents (checkEvent node model)).map fun _ =>
        rule.generated (model.serviceClass node) := by
  cases rule with
  | always action =>
      have acted := outcome_actionStatement action
      simp only [statement, Rule.recordedEvents, Rule.generated,
        Logged.outcome_bind, Logged.outcome_tell, Except.bind, acted]
  | condition condition action stop =>
      have acted := outcome_actionStatement action
      simp only [statement, Rule.recordedEvents, Rule.generated,
        Logged.outcome_bind, Logged.outcome_tell, Logged.outcome_pure, acted]
      cases forM action.recordedEvents (checkEvent node model) <;> rfl

theorem outcome_actionStatement (action : Action) :
    (actionStatement node model action).outcome =
      (forM action.recordedEvents (checkEvent node model)).map fun _ =>
        action.generated (model.serviceClass node) := by
  cases action with
  | recordEvent event mapping =>
      simp only [actionStatement, Action.recordedEvents, Action.generated,
        Logged.outcome_lift, List.forM_cons, List.forM_nil, bind_pure_unit,
        recordEvent_eq_map_checkEvent]
  | executeRules rules =>
      have executed := outcome_statements rules
      simp only [actionStatement, Action.recordedEvents, Action.generated,
        Logged.outcome_bind, Logged.outcome_pure, executed]
      cases forM (Rule.recordedEventsOf rules) (checkEvent node model) <;> rfl

theorem outcome_statements (rules : List Rule) :
    (statements node model rules).outcome =
      (forM (Rule.recordedEventsOf rules) (checkEvent node model)).map fun _ =>
        Rule.generatedList (model.serviceClass node) rules := by
  cases rules with
  | nil => rfl
  | cons rule rest =>
      have first := outcome_statement rule
      have others := outcome_statements rest
      simp only [statements, Rule.recordedEventsOf, Rule.generatedList,
        Logged.outcome_bind, Logged.outcome_pure, first, others,
        List.forM_append]
      cases forM rule.recordedEvents (checkEvent node model) with
      | error error => rfl
      | ok checked =>
          cases forM (Rule.recordedEventsOf rest)
            (checkEvent node model) <;> rfl

end

end Compilation

open Compilation

section Compile

variable {node : Node} {model : Model} {rules : List Rule}
  {declared : List Variable}

/-- Compilation checks the variables, checks the events in the order of the
text, and generates the block. -/
theorem compile_of_ne_nil (nonempty : rules ≠ []) :
    compile node model rules declared = (do
      checkVariables node [] declared
      forM (Rule.recordedEventsOf rules) (checkEvent node model)
      pure (generatedBlock (model.serviceClass node) rules declared)) := by
  cases rules with
  | nil => exact absurd rfl nonempty
  | cons rule rest =>
      simp only [compile, run, Compilation.block, Logged.outcome_bind,
        Logged.outcome_lift, Logged.outcome_pure, outcome_statements]
      cases checkVariables node [] declared with
      | error error => rfl
      | ok checked =>
          cases forM (Rule.recordedEventsOf (rule :: rest))
            (checkEvent node model) <;> rfl

theorem compile_eq_ok_iff {block : Block} (nonempty : rules ≠ []) :
    compile node model rules declared = .ok block ↔
      checkVariables node [] declared = .ok () ∧
        (∀ event ∈ Rule.recordedEventsOf rules,
          checkEvent node model event = .ok ()) ∧
        block = generatedBlock (model.serviceClass node) rules declared := by
  rw [compile_of_ne_nil nonempty, ← forM_eq_ok_iff]
  cases checkVariables node [] declared with
  | error error => simp [bind, Except.bind]
  | ok checked =>
      cases forM (Rule.recordedEventsOf rules) (checkEvent node model) with
      | error error => simp [bind, Except.bind]
      | ok passed => simp [bind, Except.bind, pure, Except.pure, eq_comm]

end Compile

instance decidableEqExcept [DecidableEq ε] [DecidableEq α] :
    DecidableEq (Except ε α)
  | .error left, .error right =>
      decidable_of_iff (left = right) (by simp)
  | .ok left, .ok right => decidable_of_iff (left = right) (by simp)
  | .error _, .ok _ => isFalse (by simp)
  | .ok _, .error _ => isFalse (by simp)

namespace Sample

def order : Node :=
  ⟨"order", "Order", .aggregate⟩

/-- A model in which orders can be placed and flagged. -/
def orders : Model where
  owningService _ := .ok "Orders"
  outgoingTargets _ _ :=
    .ok [⟨"placed", "Order Placed", .event⟩, ⟨"flagged", "flagged", .event⟩]

/-- Rules of which an inner one stops the behavior. -/
def rules : List Rule :=
  [.whenTrue ⟨"open"⟩ (.executeRules
      [(Rule.whenFalse ⟨"paid"⟩
          (.recordEvent "Flagged" (.expression ⟨"reason"⟩))).stopping,
        .always (.recordEvent "orderPlaced"
          (.ofFields [("total", ⟨"sum"⟩), ("id", ⟨"id"⟩)]))]),
    .always (.recordEvent "ORDER_PLACED" (.expression ⟨"rest"⟩))]

def declared : List Variable :=
  [⟨"sum", ⟨"price * quantity"⟩⟩, ⟨"unit price", ⟨"sum / quantity"⟩⟩]

theorem compile_rules :
    compile order orders rules declared =
      .ok (generatedBlock "Orders" rules declared) := by
  decide +kernel

end Sample

end AggregateRules
