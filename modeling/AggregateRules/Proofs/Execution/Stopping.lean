import AggregateRules.Proofs.Compilation.BlockShape
import AggregateRules.Proofs.Compilation.ProducedEvents
import AggregateRules.Proofs.Execution.Preservation
import AggregateRules.Proofs.Execution.Realization

/-!
# Rules that stop cut a run short

When further rules of a behavior are made to stop, the behavior still compiles
and produces the same events in its text. A run of it does what it did before,
up to a place where one of these rules has acted: there it ends. An execution
that relates to another one in this way is said to cut it short, see
`CutsShort`, and this relation follows the structure of rules.
-/

namespace AggregateRules

/-- The rule, which stops as well if it is marked. -/
def Rule.stoppingIf (mark : Bool) (rule : Rule) : Rule :=
  if mark then rule.stopping else rule

mutual

/-- A rule in which the rules at marked places stop as well. The rule itself has
the place zero, and the rules within it follow in the order of the text. -/
def Rule.stoppingAt (marked : Nat → Bool) : Rule → Rule
  | .always action =>
      (Rule.always
        (action.stoppingAt fun place => marked (place + 1))).stoppingIf
        (marked 0)
  | .condition given action stop =>
      (Rule.condition given (action.stoppingAt fun place => marked (place + 1))
        stop).stoppingIf (marked 0)

def Action.stoppingAt (marked : Nat → Bool) : Action → Action
  | .recordEvent event mapping => .recordEvent event mapping
  | .executeRules rules => .executeRules (Rule.stoppingListAt marked rules)

def Rule.stoppingListAt (marked : Nat → Bool) : List Rule → List Rule
  | [] => []
  | rule :: rest =>
      rule.stoppingAt marked ::
        Rule.stoppingListAt (fun place => marked (rule.preorder.length + place))
          rest

end

/-- Whether a place among some rules is marked and belongs to a condition rule
that does not stop yet. -/
def NewlyStops (marked : Nat → Bool) (rules : List Rule) (place : Nat) : Prop :=
  marked place = true ∧
    ∃ given action, rules[place]? = some (.condition given action false)

mutual

/-- The places of the condition rules that fire when a rule is performed on a
machine. -/
def Rule.firing (evaluator : Evaluator Value State) (service : String)
    (machine : Machine Value State) : Rule → List Nat
  | .always action =>
      (action.firing evaluator service machine).map fun place => place + 1
  | .condition given action _ =>
      match given.evaluate evaluator machine with
      | .ok true tested =>
          0 :: (action.firing evaluator service tested).map fun place =>
            place + 1
      | _ => []

def Action.firing (evaluator : Evaluator Value State) (service : String)
    (machine : Machine Value State) : Action → List Nat
  | .recordEvent _ _ => []
  | .executeRules rules => Rule.firingList evaluator service machine rules

def Rule.firingList (evaluator : Evaluator Value State) (service : String)
    (machine : Machine Value State) : List Rule → List Nat
  | [] => []
  | rule :: rest =>
      rule.firing evaluator service machine ++
        match rule.perform evaluator service machine with
        | .ok () performed =>
            (Rule.firingList evaluator service performed rest).map fun place =>
              rule.preorder.length + place
        | .error _ _ => []

end

/-- Sets the variables of a behavior. -/
def declareAll (evaluator : Evaluator Value State) (declared : List Variable) :
    Execution Value State Unit := do
  Execution.clear
  Execution.assignAll evaluator
    (declared.map fun entry => (entry.name, entry.initializer))

/-- The places of the condition rules that fire when a behavior is performed. -/
def firedPlaces (evaluator : Evaluator Value State) (service : String)
    (rules : List Rule) (declared : List Variable)
    (machine : Machine Value State) : List Nat :=
  match declareAll evaluator declared machine with
  | .ok () initialized => Rule.firingList evaluator service initialized rules
  | .error _ _ => []

@[simp] theorem Rule.stoppingIf_always (mark : Bool) (action : Action) :
    (Rule.always action).stoppingIf mark = .always action := by
  cases mark <;> rfl

@[simp] theorem Rule.stoppingIf_condition (mark : Bool) (given : Condition)
    (action : Action) (stop : Bool) :
    (Rule.condition given action stop).stoppingIf mark =
      .condition given action (stop || mark) := by
  cases mark <;> cases stop <;> rfl

mutual

theorem Rule.recordedEvents_stoppingAt (marked : Nat → Bool) (rule : Rule) :
    (rule.stoppingAt marked).recordedEvents = rule.recordedEvents := by
  cases rule with
  | always action =>
      rw [Rule.stoppingAt, Rule.stoppingIf_always]
      exact Action.recordedEvents_stoppingAt _ action
  | condition given action stop =>
      rw [Rule.stoppingAt, Rule.stoppingIf_condition]
      exact Action.recordedEvents_stoppingAt _ action

theorem Action.recordedEvents_stoppingAt (marked : Nat → Bool)
    (action : Action) :
    (action.stoppingAt marked).recordedEvents = action.recordedEvents := by
  cases action with
  | recordEvent event mapping => rfl
  | executeRules rules =>
      exact Rule.recordedEventsOf_stoppingListAt marked rules

theorem Rule.recordedEventsOf_stoppingListAt (marked : Nat → Bool)
    (rules : List Rule) :
    Rule.recordedEventsOf (Rule.stoppingListAt marked rules) =
      Rule.recordedEventsOf rules := by
  cases rules with
  | nil => rfl
  | cons rule rest =>
      have first := Rule.recordedEvents_stoppingAt marked rule
      have others := Rule.recordedEventsOf_stoppingListAt
        (fun place => marked (rule.preorder.length + place)) rest
      rw [Rule.stoppingListAt, Rule.recordedEventsOf, first, others,
        Rule.recordedEventsOf]

end

theorem getElem?_append_of_some {first : List α} {place : Nat} {item : α}
    (found : first[place]? = some item) (others : List α) :
    (first ++ others)[place]? = some item := by
  rw [List.getElem?_append_left (List.getElem?_eq_some_iff.mp found).1, found]

theorem getElem?_length_add (first others : List α) (place : Nat) :
    (first ++ others)[first.length + place]? = others[place]? := by
  rw [List.getElem?_append_right (Nat.le_add_right _ _),
    Nat.add_sub_cancel_left]

/-- Whether two markings agree on the condition rules among some rules. -/
def AgreeOnConditions (left right : Nat → Bool) (rules : List Rule) : Prop :=
  ∀ place given action stop,
    rules[place]? = some (.condition given action stop) →
      left place = right place

theorem AgreeOnConditions.tail {left right : Nat → Bool} {rule : Rule}
    {rules : List Rule} (agree : AgreeOnConditions left right (rule :: rules)) :
    AgreeOnConditions (fun place => left (place + 1))
      (fun place => right (place + 1)) rules := by
  intro place given action stop found
  exact agree (place + 1) given action stop found

theorem AgreeOnConditions.left {left right : Nat → Bool}
    {first others : List Rule}
    (agree : AgreeOnConditions left right (first ++ others)) :
    AgreeOnConditions left right first := by
  intro place given action stop found
  exact agree place given action stop (getElem?_append_of_some found others)

theorem AgreeOnConditions.right {left right : Nat → Bool}
    {first others : List Rule}
    (agree : AgreeOnConditions left right (first ++ others)) :
    AgreeOnConditions (fun place => left (first.length + place))
      (fun place => right (first.length + place)) others := by
  intro place given action stop found
  apply agree (first.length + place) given action stop
  rw [getElem?_length_add]
  exact found

mutual

theorem Rule.stoppingAt_congr {left right : Nat → Bool} (rule : Rule)
    (agree : AgreeOnConditions left right rule.preorder) :
    rule.stoppingAt left = rule.stoppingAt right := by
  cases rule with
  | always action =>
      have inner := Action.stoppingAt_congr action agree.tail
      rw [Rule.stoppingAt, Rule.stoppingAt, Rule.stoppingIf_always,
        Rule.stoppingIf_always, inner]
  | condition given action stop =>
      have inner := Action.stoppingAt_congr action agree.tail
      have own := agree 0 given action stop rfl
      rw [Rule.stoppingAt, Rule.stoppingAt, inner, own]

theorem Action.stoppingAt_congr {left right : Nat → Bool} (action : Action)
    (agree : AgreeOnConditions left right action.nestedRules) :
    action.stoppingAt left = action.stoppingAt right := by
  cases action with
  | recordEvent event mapping => rfl
  | executeRules rules =>
      exact congrArg Action.executeRules (Rule.stoppingListAt_congr rules agree)

/-- Marks on rules that always apply make no difference. -/
theorem Rule.stoppingListAt_congr {left right : Nat → Bool} (rules : List Rule)
    (agree : AgreeOnConditions left right (Rule.preorderOf rules)) :
    Rule.stoppingListAt left rules = Rule.stoppingListAt right rules := by
  cases rules with
  | nil => rfl
  | cons rule rest =>
      have first := Rule.stoppingAt_congr rule agree.left
      have others := Rule.stoppingListAt_congr rest agree.right
      rw [Rule.stoppingListAt, Rule.stoppingListAt, first, others]

end

mutual

theorem Rule.stoppingAt_none (rule : Rule) :
    rule.stoppingAt (fun _ => false) = rule := by
  cases rule with
  | always action =>
      rw [Rule.stoppingAt, Rule.stoppingIf_always, Action.stoppingAt_none]
  | condition given action stop =>
      rw [Rule.stoppingAt, Rule.stoppingIf_condition, Action.stoppingAt_none,
        Bool.or_false]

theorem Action.stoppingAt_none (action : Action) :
    action.stoppingAt (fun _ => false) = action := by
  cases action with
  | recordEvent event mapping => rfl
  | executeRules rules =>
      exact congrArg Action.executeRules (Rule.stoppingListAt_none rules)

theorem Rule.stoppingListAt_none (rules : List Rule) :
    Rule.stoppingListAt (fun _ => false) rules = rules := by
  cases rules with
  | nil => rfl
  | cons rule rest =>
      rw [Rule.stoppingListAt, Rule.stoppingAt_none, Rule.stoppingListAt_none]

end

namespace Execution

theorem bind_of_ok {first : Execution Value State α}
    {machine middle : Machine Value State} {value : α}
    (ran : first machine = .ok value middle)
    (next : α → Execution Value State β) :
    (first >>= next) machine = next value middle := by
  change EStateM.bind first next machine = _
  rw [EStateM.bind, ran]

theorem bind_of_error {first : Execution Value State α}
    {machine final : Machine Value State} {ending : Ending}
    (ran : first machine = .error ending final)
    (next : α → Execution Value State β) :
    (first >>= next) machine = .error ending final := by
  change EStateM.bind first next machine = _
  rw [EStateM.bind, ran]

/-- Whether an execution only adds to what has been observed. -/
def AddsToTrace (execution : Execution Value State α) : Prop :=
  ∀ machine : Machine Value State,
    machine.trace <+: (machine.afterwards execution).trace

theorem addsToTrace_pure (value : α) :
    AddsToTrace (pure value : Execution Value State α) :=
  fun _ => List.prefix_refl _

theorem addsToTrace_throw (ending : Ending) :
    AddsToTrace (throw ending : Execution Value State α) :=
  fun _ => List.prefix_refl _

theorem addsToTrace_produce (service event : String) (data : EventData Value) :
    AddsToTrace (produce service event data : Execution Value State Unit) :=
  fun _ => List.prefix_append _ _

theorem addsToTrace_evaluate (evaluator : Evaluator Value State)
    (expression : Expression) :
    AddsToTrace (evaluate evaluator expression) := by
  intro machine
  rw [Machine.afterwards, evaluate_eq]
  dsimp only
  cases (evaluator.evaluate expression machine.store machine.state).value with
  | none => exact List.prefix_append _ _
  | some value => exact List.prefix_append _ _

theorem AddsToTrace.bind {first : Execution Value State α}
    {next : α → Execution Value State β} (firstAdds : AddsToTrace first)
    (nextAdds : ∀ value, AddsToTrace (next value)) :
    AddsToTrace (first >>= next) := by
  intro machine
  have added := firstAdds machine
  unfold Machine.afterwards at added ⊢
  cases ran : first machine with
  | ok value middle =>
      rw [ran] at added
      rw [bind_of_ok ran]
      exact added.trans (nextAdds value middle)
  | error ending final =>
      rw [ran] at added
      rw [bind_of_error ran]
      exact added

theorem addsToTrace_evaluateFields (evaluator : Evaluator Value State)
    (fields : List (String × Expression)) :
    AddsToTrace (evaluateFields evaluator fields) := by
  induction fields with
  | nil => exact addsToTrace_pure []
  | cons field rest ih =>
      refine (addsToTrace_evaluate evaluator field.2).bind fun value => ?_
      exact ih.bind fun values => addsToTrace_pure _

/-- Whether an execution does on every machine what another one does, or ends
the behavior on the way to it. It ends it only on machines on which it `may`. -/
def CutsShort (cut whole : Execution Value State Unit)
    (may : Machine Value State → Prop) : Prop :=
  ∀ machine, cut machine = whole machine ∨
    may machine ∧ ∃ final, cut machine = .error .finished final ∧
      final.trace <+: (machine.afterwards whole).trace

theorem CutsShort.refl (execution : Execution Value State Unit)
    (may : Machine Value State → Prop) : CutsShort execution execution may :=
  fun _ => .inl rfl

theorem CutsShort.imp {cut whole : Execution Value State Unit}
    {may more : Machine Value State → Prop} (short : CutsShort cut whole may)
    (allows : ∀ machine, may machine → more machine) :
    CutsShort cut whole more := by
  intro machine
  rcases short machine with same | ⟨mays, ended⟩
  · exact .inl same
  · exact .inr ⟨allows machine mays, ended⟩

theorem cutsShort_throw_finished :
    CutsShort (throw .finished : Execution Value State Unit) (pure ())
      fun _ => True :=
  fun machine => .inr ⟨trivial, machine, rfl, List.prefix_refl _⟩

/-- What comes first is the same, and what follows is cut short. -/
theorem CutsShort.bind (first : Execution Value State α)
    {cut whole : α → Execution Value State Unit}
    {may : α → Machine Value State → Prop}
    (short : ∀ value, CutsShort (cut value) (whole value) (may value)) :
    CutsShort (first >>= cut) (first >>= whole) fun machine =>
      ∃ value middle, first machine = .ok value middle ∧ may value middle := by
  intro machine
  cases ran : first machine with
  | error ending final =>
      left
      rw [bind_of_error ran, bind_of_error ran]
  | ok value middle =>
      unfold Machine.afterwards
      rw [bind_of_ok ran, bind_of_ok ran]
      rcases short value middle with same | ⟨mays, ended⟩
      · exact .inl same
      · exact .inr ⟨⟨value, middle, ran, mays⟩, ended⟩

/-- What a condition guards is cut short only if the condition holds. -/
theorem CutsShort.guarded {cut whole : Execution Value State Unit}
    {may : Machine Value State → Prop} (short : CutsShort cut whole may)
    (test : Execution Value State Bool) :
    CutsShort
      (do
        let holds ← test
        if holds then cut else pure ())
      (do
        let holds ← test
        if holds then whole else pure ())
      fun machine => ∃ tested, test machine = .ok true tested ∧ may tested := by
  have guarded : ∀ holds : Bool,
      CutsShort (if holds then cut else pure ())
        (if holds then whole else pure ())
        fun machine => holds = true ∧ may machine := by
    intro holds
    cases holds with
    | false => exact .refl _ _
    | true => exact short.imp fun machine mays => ⟨rfl, mays⟩
  apply (CutsShort.bind test guarded).imp
  rintro machine ⟨_, tested, ran, rfl, mays⟩
  exact ⟨tested, ran, mays⟩

/-- Where the first of two executions is cut short, the second one does not
begin, and it would only have added to the trace. -/
theorem CutsShort.seq {cut whole cutNext next : Execution Value State Unit}
    {may mayNext : Machine Value State → Prop}
    (short : CutsShort cut whole may)
    (shortNext : CutsShort cutNext next mayNext)
    (nextAdds : AddsToTrace next) :
    CutsShort (do cut; cutNext) (do whole; next) fun machine =>
      may machine ∨
        ∃ middle, whole machine = .ok () middle ∧ mayNext middle := by
  intro machine
  rcases short machine with same | ⟨mays, final, ended, within⟩
  · cases ran : whole machine with
    | error ending final =>
        left
        rw [bind_of_error ran, bind_of_error (same.trans ran)]
    | ok value middle =>
        unfold Machine.afterwards
        rw [bind_of_ok ran, bind_of_ok (same.trans ran)]
        rcases shortNext middle with sameNext | ⟨maysNext, endedNext⟩
        · exact .inl sameNext
        · exact .inr ⟨.inr ⟨middle, ran, maysNext⟩, endedNext⟩
  · right
    refine ⟨.inl mays, final, bind_of_error ended _, ?_⟩
    unfold Machine.afterwards at within ⊢
    cases ran : whole machine with
    | error ending other =>
        rw [ran] at within
        rw [bind_of_error ran]
        exact within
    | ok value middle =>
        rw [ran] at within
        rw [bind_of_ok ran]
        exact within.trans (nextAdds middle)

theorem CutsShort.trace_prefix {cut whole : Execution Value State Unit}
    {may : Machine Value State → Prop} (short : CutsShort cut whole may)
    (machine : Machine Value State) :
    (machine.afterwards cut).trace <+: (machine.afterwards whole).trace := by
  rcases short machine with same | ⟨_, final, ended, within⟩
  · simp only [Machine.afterwards, same, List.prefix_refl]
  · unfold Machine.afterwards at within ⊢
    rw [ended]
    exact within

end Execution

open Execution

section

variable {Value State : Type} (evaluator : Evaluator Value State)
  (service : String)

theorem addsToTrace_mapping (mapping : Mapping) :
    AddsToTrace (mapping.evaluate evaluator) := by
  cases mapping with
  | expression source =>
      exact (addsToTrace_evaluate evaluator source).bind fun _ =>
        addsToTrace_pure _
  | fields sources =>
      exact (addsToTrace_evaluateFields evaluator sources.entries).bind
        fun _ => addsToTrace_pure _

theorem addsToTrace_condition (condition : Condition) :
    AddsToTrace (condition.evaluate evaluator) :=
  (addsToTrace_evaluate evaluator condition.test).bind fun _ =>
    addsToTrace_pure _

/-- The end of a condition rule, behind its action. -/
def endIf (stop : Bool) : Execution Value State Unit :=
  if stop then throw .finished else pure ()

theorem addsToTrace_endIf (stop : Bool) :
    AddsToTrace (endIf stop : Execution Value State Unit) := by
  cases stop with
  | false => exact addsToTrace_pure ()
  | true => exact addsToTrace_throw .finished

theorem cutsShort_endIf (stop mark : Bool) :
    CutsShort (endIf (stop || mark) : Execution Value State Unit) (endIf stop)
      fun _ => mark = true ∧ stop = false := by
  cases stop with
  | true => exact .refl _ _
  | false =>
      cases mark with
      | false => exact .refl _ _
      | true => exact cutsShort_throw_finished.imp fun _ _ => ⟨rfl, rfl⟩

theorem Rule.perform_condition (given : Condition) (action : Action)
    (stop : Bool) :
    (Rule.condition given action stop).perform evaluator service = (do
      let holds ← given.evaluate evaluator
      if holds then do
        action.perform evaluator service
        endIf stop
      else pure ()) :=
  rfl

mutual

theorem Rule.addsToTrace_perform (rule : Rule) :
    AddsToTrace (rule.perform evaluator service) := by
  cases rule with
  | always action => exact Action.addsToTrace_perform action
  | condition given action stop =>
      rw [Rule.perform_condition]
      refine (addsToTrace_condition evaluator given).bind fun holds => ?_
      cases holds with
      | false => exact addsToTrace_pure ()
      | true =>
          exact (Action.addsToTrace_perform action).bind fun _ =>
            addsToTrace_endIf stop

theorem Action.addsToTrace_perform (action : Action) :
    AddsToTrace (action.perform evaluator service) := by
  cases action with
  | recordEvent event mapping =>
      exact (addsToTrace_mapping evaluator mapping).bind fun data =>
        addsToTrace_produce service _ data
  | executeRules rules => exact Rule.addsToTrace_performList rules

theorem Rule.addsToTrace_performList (rules : List Rule) :
    AddsToTrace (Rule.performList evaluator service rules) := by
  cases rules with
  | nil => exact addsToTrace_pure ()
  | cons rule rest =>
      exact (Rule.addsToTrace_perform rule).bind fun _ =>
        Rule.addsToTrace_performList rest

end

/-- Whether one of the places that fire is one of a rule that newly stops. -/
def FiresNewly (marked : Nat → Bool) (rules : List Rule) (fired : List Nat) :
    Prop :=
  ∃ place ∈ fired, NewlyStops marked rules place

theorem FiresNewly.tail {marked : Nat → Bool} {rules : List Rule}
    {fired : List Nat} (rule : Rule)
    (fires : FiresNewly (fun place => marked (place + 1)) rules fired) :
    FiresNewly marked (rule :: rules) (fired.map fun place => place + 1) := by
  obtain ⟨place, member, newly⟩ := fires
  exact ⟨place + 1, List.mem_map_of_mem member, newly⟩

theorem FiresNewly.left {marked : Nat → Bool} {rules : List Rule}
    {fired : List Nat} (fires : FiresNewly marked rules fired)
    (moreRules : List Rule) (more : List Nat) :
    FiresNewly marked (rules ++ moreRules) (fired ++ more) := by
  obtain ⟨place, member, isMarked, given, action, found⟩ := fires
  exact ⟨place, List.mem_append_left _ member, isMarked, given, action,
    getElem?_append_of_some found moreRules⟩

theorem FiresNewly.right {marked : Nat → Bool} {moreRules : List Rule}
    {fired : List Nat} (rules : List Rule) (more : List Nat)
    (fires : FiresNewly (fun place => marked (rules.length + place)) moreRules
      fired) :
    FiresNewly marked (rules ++ moreRules)
      (more ++ fired.map fun place => rules.length + place) := by
  obtain ⟨place, member, isMarked, given, action, found⟩ := fires
  refine ⟨rules.length + place,
    List.mem_append_right _ (List.mem_map_of_mem member), isMarked, given,
    action, ?_⟩
  rw [getElem?_length_add]
  exact found

mutual

theorem Rule.cutsShort_stoppingAt (marked : Nat → Bool) (rule : Rule) :
    CutsShort ((rule.stoppingAt marked).perform evaluator service)
      (rule.perform evaluator service) fun machine =>
        FiresNewly marked rule.preorder
          (rule.firing evaluator service machine) := by
  cases rule with
  | always action =>
      have acted := Action.cutsShort_stoppingAt
        (fun place => marked (place + 1)) action
      rw [Rule.stoppingAt, Rule.stoppingIf_always]
      exact acted.imp fun machine fires => fires.tail (.always action)
  | condition given action stop =>
      have acted := Action.cutsShort_stoppingAt
        (fun place => marked (place + 1)) action
      have ended := acted.seq (cutsShort_endIf stop (marked 0))
        (addsToTrace_endIf stop)
      rw [Rule.stoppingAt, Rule.stoppingIf_condition, Rule.perform_condition,
        Rule.perform_condition]
      apply (ended.guarded (given.evaluate evaluator)).imp
      rintro machine ⟨tested, ran, fires | ⟨_, _, isMarked, goesOn⟩⟩
      · rw [Rule.firing, ran]
        obtain ⟨place, member, newly⟩ :=
          fires.tail (.condition given action stop)
        exact ⟨place, List.mem_cons_of_mem _ member, newly⟩
      · rw [Rule.firing, ran]
        subst goesOn
        exact ⟨0, List.mem_cons_self, isMarked, given, action, rfl⟩

theorem Action.cutsShort_stoppingAt (marked : Nat → Bool) (action : Action) :
    CutsShort ((action.stoppingAt marked).perform evaluator service)
      (action.perform evaluator service) fun machine =>
        FiresNewly marked action.nestedRules
          (action.firing evaluator service machine) := by
  cases action with
  | recordEvent event mapping => exact .refl _ _
  | executeRules rules => exact Rule.cutsShort_stoppingListAt marked rules

theorem Rule.cutsShort_stoppingListAt (marked : Nat → Bool)
    (rules : List Rule) :
    CutsShort
      (Rule.performList evaluator service (Rule.stoppingListAt marked rules))
      (Rule.performList evaluator service rules) fun machine =>
        FiresNewly marked (Rule.preorderOf rules)
          (Rule.firingList evaluator service machine rules) := by
  cases rules with
  | nil => exact .refl _ _
  | cons rule rest =>
      have first := Rule.cutsShort_stoppingAt marked rule
      have others := Rule.cutsShort_stoppingListAt
        (fun place => marked (rule.preorder.length + place)) rest
      have both := first.seq others
        (Rule.addsToTrace_performList evaluator service rest)
      apply both.imp
      rintro machine (fires | ⟨middle, ran, fires⟩)
      · exact fires.left _ _
      · rw [Rule.firingList, ran]
        exact fires.right rule.preorder _

end

end

section

variable {Value State : Type} (evaluator : Evaluator Value State)

theorem neverFinishes_declareAll (declared : List Variable) :
    NeverFinishes (declareAll evaluator declared) :=
  neverFinishes_clear.bind fun _ => neverFinishes_assignAll evaluator _

theorem Block.run_generatedBlock (service : String) (rules : List Rule)
    (declared : List Variable) :
    Block.run evaluator (generatedBlock service rules declared) =
      (do
        declareAll evaluator declared
        Rule.performList evaluator service rules :
          Execution Value State Unit).asFlow := by
  have applied := Rule.run_generatedList evaluator service rules
  rw [asFlow_bind (neverFinishes_declareAll evaluator declared), ← applied]
  simp only [generatedBlock, Block.run, Compilation.declareVariables,
    Statement.run, pure_next_followedBy, bind_followedBy, declareAll,
    bind_assoc]

theorem cutsShort_behavior (marked : Nat → Bool) (service : String)
    (rules : List Rule) (declared : List Variable) :
    CutsShort
      (do
        declareAll evaluator declared
        Rule.performList evaluator service (Rule.stoppingListAt marked rules))
      (do
        declareAll evaluator declared
        Rule.performList evaluator service rules)
      fun machine => FiresNewly marked (Rule.preorderOf rules)
        (firedPlaces evaluator service rules declared machine) := by
  have applied :=
    Rule.cutsShort_stoppingListAt evaluator service marked rules
  apply (CutsShort.bind (declareAll evaluator declared) fun _ => applied).imp
  rintro machine ⟨_, initialized, ran, fires⟩
  rw [firedPlaces, ran]
  exact fires

end

theorem compile_stoppingListAt {node : Node} {model : Model}
    {rules : List Rule} {declared : List Variable} {block : Block}
    (nonempty : rules ≠ [])
    (compiled : compile node model rules declared = .ok block)
    (marked : Nat → Bool) :
    compile node model (Rule.stoppingListAt marked rules) declared =
      .ok (generatedBlock (model.serviceClass node)
        (Rule.stoppingListAt marked rules) declared) := by
  obtain ⟨checked, passed, -⟩ := (compile_eq_ok_iff nonempty).mp compiled
  have stillNonempty : Rule.stoppingListAt marked rules ≠ [] := by
    cases rules with
    | nil => exact absurd rfl nonempty
    | cons rule rest => exact List.cons_ne_nil _ _
  refine (compile_eq_ok_iff stillNonempty).mpr ⟨checked, ?_, rfl⟩
  rw [Rule.recordedEventsOf_stoppingListAt]
  exact passed

/-- Rules that compile also compile after some of them are made to stop, and
their block produces the same events. With every evaluator, what is observed of
a run of it is the beginning of what was observed before. The runs are the same
if none of the condition rules fires that did not stop before. Marks on rules
that always apply change nothing. -/
theorem stops_cut_runs_short {node : Node} {model : Model} {rules : List Rule}
    {declared : List Variable} {block : Block}
    (compiled : compile node model rules declared = .ok block)
    (marked : Nat → Bool) :
    (∃ cut,
      compile node model (Rule.stoppingListAt marked rules) declared =
          .ok cut ∧
        Block.producedEvents cut = Block.producedEvents block ∧
        ∀ {Value State : Type} (evaluator : Evaluator Value State)
          (machine : Machine Value State),
          (machine.afterwards (Block.run evaluator cut)).trace <+:
              (machine.afterwards (Block.run evaluator block)).trace ∧
            ((∀ place ∈ firedPlaces evaluator (model.serviceClass node) rules
                  declared machine,
                ¬ NewlyStops marked (Rule.preorderOf rules) place) →
              Block.run evaluator cut machine =
                Block.run evaluator block machine)) ∧
      (∀ other, AgreeOnConditions other marked (Rule.preorderOf rules) →
        Rule.stoppingListAt other rules = Rule.stoppingListAt marked rules) ∧
      ((∀ place, marked place = true → ∀ given action stop,
          (Rule.preorderOf rules)[place]? ≠
            some (.condition given action stop)) →
        Rule.stoppingListAt marked rules = rules) := by
  refine ⟨?_, ?_, ?_⟩
  · by_cases empty : rules = []
    · subst empty
      cases compiled
      refine ⟨[], rfl, rfl, ?_⟩
      intro Value State evaluator machine
      exact ⟨List.prefix_refl _, fun _ => rfl⟩
    · have recompiled := compile_stoppingListAt empty compiled marked
      refine ⟨_, recompiled, ?_, ?_⟩
      · rw [producedEvents_eq_map_className recompiled,
          producedEvents_eq_map_className compiled,
          Rule.recordedEventsOf_stoppingListAt]
      · obtain ⟨-, -, rfl⟩ := (compile_eq_ok_iff empty).mp compiled
        intro Value State evaluator machine
        have short := cutsShort_behavior evaluator marked
          (model.serviceClass node) rules declared
        rw [Block.run_generatedBlock, Block.run_generatedBlock]
        constructor
        · rw [machine.afterwards_asFlow, machine.afterwards_asFlow]
          exact short.trace_prefix machine
        · intro none
          rcases short machine with same | ⟨⟨place, fired, newly⟩, -⟩
          · simp only [asFlow, same]
          · exact absurd newly (none place fired)
  · exact fun other agree => Rule.stoppingListAt_congr rules agree
  · intro onlyAlways
    have agree : AgreeOnConditions marked (fun _ => false)
        (Rule.preorderOf rules) := by
      intro place given action stop found
      rw [Bool.eq_false_iff]
      exact fun isMarked => onlyAlways place isMarked given action stop found
    rw [Rule.stoppingListAt_congr rules agree, Rule.stoppingListAt_none]

namespace Sample

/-- The block of the orders' rules. -/
def ordersBlock : Block :=
  generatedBlock "Orders" rules declared

/-- A machine on which orders are open for the counting evaluator. -/
def opened : Machine Bool Nat :=
  ⟨[], 0, []⟩

/-- A machine on which nothing is answered, and so no order is open. -/
def closed : Machine Bool (List Bool) :=
  ⟨[], [], []⟩

end Sample

open Sample

/-- The first of the orders' rules is made to stop. That ends a run in which
orders are open before the last rule, and makes no difference where they are
not. A mark on the third rule, which always applies, changes nothing. -/
theorem stopping_open_orders :
    compile order orders rules declared = .ok ordersBlock ∧
      firedPlaces countingEvaluator "Orders" rules declared opened = [0] ∧
      firedPlaces .answering "Orders" rules declared closed = [] ∧
      (∃ cut,
        compile order orders (Rule.stoppingListAt (· == 0) rules) declared =
            .ok cut ∧
          (opened.afterwards (Block.run countingEvaluator cut)).trace <+:
            (opened.afterwards
              (Block.run countingEvaluator ordersBlock)).trace ∧
          (opened.afterwards
              (Block.run countingEvaluator ordersBlock)).trace =
            (opened.afterwards (Block.run countingEvaluator cut)).trace ++
              [.evaluated ⟨"rest"⟩,
                .produced "Orders" "OrderPlaced" (.whole true)] ∧
          Block.run .answering cut closed =
            Block.run .answering ordersBlock closed) ∧
      Rule.stoppingListAt (· == 2) rules = rules := by
  have none : firedPlaces .answering "Orders" rules declared closed = [] := rfl
  have isOrders : orders.serviceClass order = "Orders" := by decide +kernel
  have nonempty : rules ≠ [] := List.cons_ne_nil _ _
  refine ⟨compile_rules, rfl, none, ?_, ?_⟩
  · obtain ⟨cut, recompiled, -, runs⟩ :=
      (stops_cut_runs_short compile_rules (· == 0)).1
    refine ⟨cut, recompiled, (runs countingEvaluator opened).1, ?_,
      (runs .answering closed).2 ?_⟩
    · have generated := compile_stoppingListAt nonempty compile_rules (· == 0)
      rw [isOrders, recompiled] at generated
      rw [Except.ok.inj generated]
      decide +kernel
    · intro place fired
      rw [isOrders, none] at fired
      cases fired
  · apply (stops_cut_runs_short compile_rules _).2.2
    intro place isMarked given action stop found
    cases eq_of_beq isMarked
    cases found

end AggregateRules
