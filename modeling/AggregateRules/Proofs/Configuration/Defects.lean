import AggregateRules.Proofs.Configuration.Grammar

/-!
# Defects of rules in a configuration

A value that is no list of rules may be wrong in many places at once. Each
defect is said here for its own place, without a look at what stands before it,
together with the error that tells of it. The places are in the order in which a
configuration is read, and an outcome reports the defect at the first of them.
-/

namespace AggregateRules

namespace Configuration

/-- Where a defect can be: the positions that lead there, the outermost first.
The position of a rule is its index in the list, and the one of a field its
index in the mapping. In a rule, the positions are 0 for its type, 1 for its
condition, 2 for its action and 3 for its `stop`; in a condition, 0 for `if`, 1
for `ifNot` and 2 for the choice between the two; in a recorded event, 0 for its
name and 1 for its mapping. A part that is itself of the wrong form adds no
position. Places are read in lexicographic order. -/
abbrev Place := List Nat

/-- The errors of the defects of a value, with their places. -/
abbrev Defects := Place → CompileError → Prop

section

variable (node : Node)

/-- A rule whose `type` is no kind of rules. -/
inductive KindDefect (members : List (String × Json)) :
    CompileError → Prop where
  | absent :
      List.lookup "type" members = none →
      KindDefect members (.unknownRuleKind node.describe "")
  | unknown :
      List.lookup "type" members = some (.string kind) →
      kind ≠ "always" →
      kind ≠ "condition" →
      KindDefect members (.unknownRuleKind node.describe kind)
  | form :
      List.lookup "type" members = some value →
      value.string? = none →
      KindDefect members (.unknownRuleKind node.describe value.compact)

/-- An expression of a condition that is neither a string nor vacant. -/
inductive ExpressionDefect (members : List (String × Json)) (name : String) :
    CompileError → Prop where
  | form :
      members.lookup name = some value →
      value ≠ .null →
      value.string? = none →
      ExpressionDefect members name
        (.malformedConfiguration node.describe
          ("'" ++ name ++ "' must be an expression string, found " ++
            value.compact))

/-- A condition rule that has not exactly one condition. -/
inductive ChoiceDefect (members : List (String × Json)) :
    CompileError → Prop where
  | missing :
      Vacant members "if" →
      Vacant members "ifNot" →
      ChoiceDefect members
        (.missingCondition node.describe (Json.object members).compact)
  | conflicting :
      ¬ Vacant members "if" →
      ¬ Vacant members "ifNot" →
      ChoiceDefect members
        (.conflictingCondition node.describe (Json.object members).compact)

inductive ConditionDefect (members : List (String × Json)) : Defects where
  | positive :
      ExpressionDefect node members "if" error →
      ConditionDefect members [0] error
  | negative :
      ExpressionDefect node members "ifNot" error →
      ConditionDefect members [1] error
  | choice :
      ChoiceDefect node members error →
      ConditionDefect members [2] error

/-- A `stop` that is neither a boolean nor vacant. -/
inductive StopDefect (members : List (String × Json)) :
    CompileError → Prop where
  | form :
      List.lookup "stop" members = some value →
      value ≠ .null →
      (∀ stops, value ≠ .bool stops) →
      StopDefect members
        (.malformedConfiguration node.describe
          ("'stop' must be a boolean, found " ++ value.compact))

inductive FieldDefect (members : List (String × Json)) : Defects where
  | form :
      members[index]? = some (name, value) →
      value.string? = none →
      FieldDefect members [index]
        (.malformedConfiguration node.describe
          ("mapping field '" ++ name ++
            "' must be an expression string, found " ++ value.compact))

/-- The defects of the mapping of a recorded event, which may be absent. -/
inductive MappingDefect : Option Json → Defects where
  | absent :
      MappingDefect none []
        (.malformedConfiguration node.describe
          "'recordEvent' must carry a 'mapping'")
  | form :
      value.string? = none →
      (∀ members, value ≠ .object members) →
      MappingDefect (some value) []
        (.malformedConfiguration node.describe
          ("'mapping' must be an expression or an object of expressions, " ++
            "found " ++ value.compact))
  | field :
      FieldDefect node members place error →
      MappingDefect (some (.object members)) place error

inductive RecordDefect (record : Json) : Defects where
  | event :
      (∀ event, record.get? "eventName" ≠ some (.string event)) →
      RecordDefect record [0]
        (.malformedConfiguration node.describe
          "'recordEvent' must carry an 'eventName' string")
  | mapping :
      MappingDefect node (record.get? "mapping") place error →
      RecordDefect record (1 :: place) error

mutual

/-- The defects of a list of rules, at every depth. -/
inductive RulesDefect : Json → Defects where
  | form :
      value ≠ .null →
      (∀ items, value ≠ .array items) →
      RulesDefect value []
        (.malformedConfiguration node.describe
          ("expected a list of rules, found " ++ value.compact))
  | item :
      items[index]? = some item →
      RuleDefect item place error →
      RulesDefect (.array items) (index :: place) error

inductive RuleDefect : Json → Defects where
  | form :
      (∀ members, value ≠ .object members) →
      RuleDefect value []
        (.malformedConfiguration node.describe
          ("expected a rule object, found " ++ value.compact))
  | kind :
      KindDefect node members error →
      RuleDefect (.object members) [0] error
  | condition :
      List.lookup "type" members = some (.string "condition") →
      ConditionDefect node members place error →
      RuleDefect (.object members) (1 :: place) error
  | action :
      ActionDefect (members.lookup "then") place error →
      RuleDefect (.object members) (2 :: place) error
  | stop :
      List.lookup "type" members = some (.string "condition") →
      StopDefect node members error →
      RuleDefect (.object members) [3] error

/-- The defects of the action of a rule, which may be absent. -/
inductive ActionDefect : Option Json → Defects where
  | absent : ActionDefect none [] (.unknownAction node.describe "null")
  | form :
      (∀ parts, value ≠ .object parts) →
      ActionDefect (some value) [] (.unknownAction node.describe value.compact)
  | unknown :
      List.lookup "recordEvent" parts = none →
      List.lookup "executeRules" parts = none →
      ActionDefect (some (.object parts)) []
        (.unknownAction node.describe (Json.object parts).compact)
  | recordEvent :
      List.lookup "recordEvent" parts = some record →
      RecordDefect node record place error →
      ActionDefect (some (.object parts)) place error
  | rules :
      List.lookup "recordEvent" parts = none →
      List.lookup "executeRules" parts = some executed →
      executed.get? "rules" = none →
      ActionDefect (some (.object parts)) []
        (.malformedConfiguration node.describe
          "'executeRules' must carry a 'rules' list")
  | executeRules :
      List.lookup "recordEvent" parts = none →
      List.lookup "executeRules" parts = some executed →
      executed.get? "rules" = some value →
      RulesDefect value place error →
      ActionDefect (some (.object parts)) place error

end

end

/-- The error of the defect at the first place, which has no other error. -/
def FirstDefect (defects : Defects) (error : CompileError) : Prop :=
  ∃ place, defects place error ∧
    ∀ other found, defects other found →
      place < other ∨ other = place ∧ found = error

/-- Whether an outcome is a value where there is no defect, and the error of the
first defect otherwise. -/
def Reports (defects : Defects) (outcome : Except CompileError α) : Prop :=
  Meets (fun _ => ∀ place error, ¬ defects place error) (FirstDefect defects)
    outcome

theorem FirstDefect.unique {defects : Defects} {left right : CompileError}
    (first : FirstDefect defects left) (second : FirstDefect defects right) :
    left = right := by
  obtain ⟨place, isDefect, least⟩ := first
  obtain ⟨other, isOther, otherLeast⟩ := second
  rcases least other right isOther with before | ⟨-, same⟩
  · rcases otherLeast place left isDefect with after | ⟨-, same⟩
    · exact absurd (List.lt_trans before after) (List.lt_irrefl place)
    · exact same
  · exact same.symm

theorem Reports.eq_error_iff {defects : Defects}
    {outcome : Except CompileError α} (reports : Reports defects outcome)
    (error : CompileError) :
    outcome = .error error ↔ FirstDefect defects error := by
  cases outcome with
  | ok value =>
      refine ⟨fun failed => (nomatch failed), ?_⟩
      rintro ⟨place, isDefect, -⟩
      exact absurd isDefect (reports place error)
  | error found =>
      constructor
      · rintro ⟨⟩
        exact reports
      · intro first
        exact congrArg Except.error (reports.unique first)

theorem Reports.eq_ok_iff {defects : Defects}
    {outcome : Except CompileError α} (reports : Reports defects outcome) :
    (∃ value, outcome = .ok value) ↔
      ∀ place error, ¬ defects place error := by
  cases outcome with
  | ok value => exact ⟨fun _ => reports, fun _ => ⟨value, rfl⟩⟩
  | error found =>
      obtain ⟨place, isDefect, -⟩ := reports
      refine ⟨fun ⟨_, failed⟩ => (nomatch failed), fun none => ?_⟩
      exact absurd isDefect (none place found)

theorem FirstDefect.only {defects : Defects} {place : Place}
    {error : CompileError} (isDefect : defects place error)
    (only : ∀ other found, defects other found →
      other = place ∧ found = error) : FirstDefect defects error :=
  ⟨place, isDefect, fun other found isOther => .inr (only other found isOther)⟩

theorem FirstDefect.congr {defects others : Defects} {error : CompileError}
    (same : ∀ place error, defects place error ↔ others place error)
    (first : FirstDefect defects error) : FirstDefect others error := by
  obtain ⟨place, isDefect, least⟩ := first
  refine ⟨place, (same _ _).mp isDefect, fun other found isOther => ?_⟩
  exact least other found ((same _ _).mpr isOther)

theorem Reports.congr {defects others : Defects}
    {outcome : Except CompileError α}
    (same : ∀ place error, defects place error ↔ others place error)
    (reports : Reports defects outcome) : Reports others outcome := by
  cases outcome with
  | ok value =>
      exact fun place error isDefect =>
        reports place error ((same _ _).mpr isDefect)
  | error found => exact FirstDefect.congr same reports

theorem Reports.bind_ok {defects : Defects} {outcome : Except CompileError α}
    (change : α → β) (reports : Reports defects outcome) :
    Reports defects (outcome >>= fun value => .ok (change value)) := by
  cases outcome with
  | ok value => exact reports
  | error found => exact reports

/-- The defects at one place. -/
def atPlace (here : Place) (errors : CompileError → Prop) : Defects :=
  fun place error => place = here ∧ errors error

/-- Defects behind a further position. -/
def under (position : Nat) (defects : Defects) : Defects :=
  fun place error => ∃ inner, place = position :: inner ∧ defects inner error

/-- The same place with its first position one further on. -/
def Place.next : Place → Place
  | [] => []
  | position :: rest => (position + 1) :: rest

/-- The defects of what stands behind a first element. -/
def shifted (defects : Defects) : Defects :=
  fun place error => ∃ inner, place = Place.next inner ∧ defects inner error

theorem reports_atPlace {errors : CompileError → Prop}
    {outcome : Except CompileError α} (here : Place)
    (exact : ∀ error, outcome = .error error ↔ errors error) :
    Reports (atPlace here errors) outcome := by
  cases outcome with
  | ok value =>
      rintro place error ⟨-, isError⟩
      cases (exact error).mpr isError
  | error found =>
      refine ⟨here, ⟨rfl, (exact found).mp rfl⟩, ?_⟩
      rintro other error ⟨rfl, isError⟩
      cases (exact error).mpr isError
      exact .inr ⟨rfl, rfl⟩

/-- Moving defects in a way that keeps the order of their places moves the first
one with them. -/
theorem Reports.moved {defects others : Defects}
    {outcome : Except CompileError α} (move : Place → Place)
    (monotone : ∀ place other, place < other → move place < move other)
    (same : ∀ place error, others place error ↔
      ∃ inner, place = move inner ∧ defects inner error)
    (reports : Reports defects outcome) : Reports others outcome := by
  cases outcome with
  | ok value =>
      intro place error isOther
      obtain ⟨inner, -, isDefect⟩ := (same _ _).mp isOther
      exact reports inner error isDefect
  | error found =>
      obtain ⟨first, isDefect, least⟩ := reports
      refine ⟨move first, (same _ _).mpr ⟨first, rfl, isDefect⟩, ?_⟩
      intro other error isOther
      obtain ⟨inner, rfl, isInner⟩ := (same _ _).mp isOther
      rcases least inner error isInner with before | ⟨rfl, rfl⟩
      · exact .inl (monotone _ _ before)
      · exact .inr ⟨rfl, rfl⟩

theorem Reports.under {defects : Defects} {outcome : Except CompileError α}
    (position : Nat) (reports : Reports defects outcome) :
    Reports (under position defects) outcome := by
  refine reports.moved (position :: ·) ?_ fun place error => Iff.rfl
  exact fun place other before => List.cons_lt_cons_self.mpr before

theorem Reports.shifted {defects : Defects} {outcome : Except CompileError α}
    (reports : Reports defects outcome) :
    Reports (shifted defects) outcome := by
  refine reports.moved Place.next ?_ fun place error => Iff.rfl
  intro place other before
  cases before with
  | nil => exact List.nil_lt_cons _ _
  | rel less => exact .rel (Nat.succ_lt_succ less)
  | cons before => exact .cons before

/-- What is read second only has a say if there is no defect in what is read
first, and its defects have later places. -/
theorem Reports.bind {first : Except CompileError α}
    {next : α → Except CompileError β} {earlier later : Defects}
    (firstReports : Reports earlier first)
    (nextReports : ∀ value, first = .ok value → Reports later (next value))
    (ordered : ∀ place error other found, earlier place error →
      later other found → place < other) :
    Reports (fun place error => earlier place error ∨ later place error)
      (first >>= next) := by
  cases first with
  | ok value =>
      refine (nextReports value rfl).congr fun place error => ?_
      simp [firstReports place error]
  | error found =>
      obtain ⟨place, isDefect, least⟩ := firstReports
      refine ⟨place, .inl isDefect, ?_⟩
      rintro other error (isEarlier | isLater)
      · exact least other error isEarlier
      · exact .inl (ordered _ _ _ _ isDefect isLater)

end Configuration

end AggregateRules
