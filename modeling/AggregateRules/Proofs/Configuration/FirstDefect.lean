import AggregateRules.Proofs.Configuration.Defects

/-!
# The first defect is reported

The reader stops at the first error, so the one that it gives is about the first
defect of a list of rules in the order of the places, whatever else is wrong,
see `readRules_reports_first_defect`. Two parts that are read one after the
other are put together by `Reports.bind`: all places of the first part are
before those of the second.
-/

namespace AggregateRules

namespace Configuration

section

variable (node : Node) (members : List (String × Json))

theorem readKind_eq_error_iff (error : CompileError) :
    readKind node members = .error error ↔ KindDefect node members error := by
  unfold readKind
  constructor
  · intro failed
    split at failed
    · next absent =>
        cases failed
        exact .absent absent
    · next name isName =>
        split at failed
        · cases failed
        · next notAlways =>
            split at failed
            · cases failed
            · next notCondition =>
                cases failed
                exact .unknown isName notAlways notCondition
    · next other noString isOther =>
        cases failed
        refine .form isOther ?_
        cases other with
        | string name => exact absurd rfl (noString name)
        | null | bool | number | array | object => rfl
  · intro isDefect
    cases isDefect with
    | absent absent => rw [absent]
    | unknown isName notAlways notCondition =>
        simp only [isName, if_neg notAlways, if_neg notCondition]
    | @form value isOther noString =>
        cases value with
        | string name => cases noString
        | null | bool | number | array | object => simp only [isOther]

theorem readExpression?_eq_error_iff (name : String) (error : CompileError) :
    readExpression? node members name = .error error ↔
      ExpressionDefect node members name error := by
  unfold readExpression?
  constructor
  · intro failed
    split at failed
    · cases failed
    · cases failed
    · cases failed
    · next other notNull noString isOther =>
        cases failed
        refine .form isOther (notNull ·) ?_
        cases other with
        | string source => exact absurd rfl (noString source)
        | null | bool | number | array | object => rfl
  · intro isDefect
    cases isDefect with
    | @form value isOther notNull noString =>
        cases value with
        | null => exact absurd rfl notNull
        | string source => cases noString
        | bool | number | array | object =>
            simp only [isOther]
            rfl

theorem readStop_eq_error_iff (error : CompileError) :
    readStop node members = .error error ↔ StopDefect node members error := by
  unfold readStop
  constructor
  · intro failed
    split at failed
    · cases failed
    · cases failed
    · cases failed
    · next other notNull noBool isOther =>
        cases failed
        exact .form isOther (notNull ·) fun stops isStop => noBool stops isStop
  · intro isDefect
    cases isDefect with
    | @form value isOther notNull noBool =>
        cases value with
        | null => exact absurd rfl notNull
        | bool stops => exact absurd rfl (noBool stops)
        | string | number | array | object =>
            simp only [isOther]
            rfl

theorem DenotesExpression?.vacant_iff {name : String}
    {value : Option Expression}
    (denotes : DenotesExpression? members name value) :
    Vacant members name ↔ value = none := by
  cases value with
  | none => exact iff_of_true denotes rfl
  | some value =>
      refine iff_of_false ?_ (fun isNone => nomatch isNone)
      have found : members.lookup name = some (.string value.source) := denotes
      simp [Vacant, found]

theorem conditionDefect_iff (place : Place) (error : CompileError) :
    atPlace [0] (ExpressionDefect node members "if") place error ∨
        atPlace [1] (ExpressionDefect node members "ifNot") place error ∨
          atPlace [2] (ChoiceDefect node members) place error ↔
      ConditionDefect node members place error := by
  constructor
  · rintro (⟨rfl, isDefect⟩ | ⟨rfl, isDefect⟩ | ⟨rfl, isDefect⟩)
    · exact .positive isDefect
    · exact .negative isDefect
    · exact .choice isDefect
  · intro isDefect
    cases isDefect with
    | positive isDefect => exact .inl ⟨rfl, isDefect⟩
    | negative isDefect => exact .inr (.inl ⟨rfl, isDefect⟩)
    | choice isDefect => exact .inr (.inr ⟨rfl, isDefect⟩)

theorem readCondition_reports :
    Reports (ConditionDefect node members) (readCondition node members) := by
  unfold readCondition
  refine Reports.congr (conditionDefect_iff node members) ?_
  refine Reports.bind
    (reports_atPlace [0] (readExpression?_eq_error_iff node members "if"))
    (fun positive isPositive => ?_) ?_
  · refine Reports.bind
      (reports_atPlace [1] (readExpression?_eq_error_iff node members "ifNot"))
      (fun negative isNegative => reports_atPlace [2] fun error => ?_) ?_
    · have holds := readExpression?_meets node members "if"
      have fails := readExpression?_meets node members "ifNot"
      rw [isPositive] at holds
      rw [isNegative] at fails
      have vacantIf := DenotesExpression?.vacant_iff members holds
      have vacantIfNot := DenotesExpression?.vacant_iff members fails
      constructor
      · intro failed
        cases positive with
        | none =>
            cases negative with
            | none =>
                cases failed
                exact .missing (vacantIf.mpr rfl) (vacantIfNot.mpr rfl)
            | some test => cases failed
        | some test =>
            cases negative with
            | none => cases failed
            | some other =>
                cases failed
                exact .conflicting (by simp [vacantIf]) (by simp [vacantIfNot])
      · intro isDefect
        cases isDefect with
        | missing noIf noIfNot =>
            rw [vacantIf.mp noIf, vacantIfNot.mp noIfNot]
        | conflicting someIf someIfNot =>
            rw [vacantIf] at someIf
            rw [vacantIfNot] at someIfNot
            obtain ⟨test, rfl⟩ := Option.ne_none_iff_exists'.mp someIf
            obtain ⟨other, rfl⟩ := Option.ne_none_iff_exists'.mp someIfNot
            rfl
    · rintro place error other found ⟨rfl, -⟩ ⟨rfl, -⟩
      decide
  · rintro place error other found ⟨rfl, -⟩ (⟨rfl, -⟩ | ⟨rfl, -⟩)
    · decide
    · decide

theorem fieldDefect_cons_iff (name : String) (source : String)
    (place : Place) (error : CompileError) :
    shifted (FieldDefect node members) place error ↔
      FieldDefect node ((name, .string source) :: members) place error := by
  constructor
  · rintro ⟨inner, rfl, isDefect⟩
    cases isDefect with
    | @form index field value isField noString =>
        have further : ((name, Json.string source) :: members)[index + 1]? =
            some (field, value) := isField
        exact .form further noString
  · intro isDefect
    cases isDefect with
    | @form index field value isField noString =>
        cases index with
        | zero =>
            cases isField
            cases noString
        | succ index => exact ⟨[index], rfl, .form isField noString⟩

theorem readFields_reports :
    Reports (FieldDefect node members) (readFields node members) := by
  induction members with
  | nil =>
      rintro place error ⟨isField, -⟩
      cases isField
  | cons member rest ih =>
      obtain ⟨name, value⟩ := member
      cases value with
      | string source =>
          refine Reports.congr (fieldDefect_cons_iff node rest name source) ?_
          exact ih.shifted.bind_ok _
      | null | bool | number | array | object =>
          refine ⟨[0], .form rfl rfl, ?_⟩
          rintro other found ⟨isField, noString⟩
          next index field value =>
            cases index with
            | zero =>
                cases isField
                exact .inr ⟨rfl, rfl⟩
            | succ index => exact .inl (.rel (Nat.succ_pos index))

theorem readMapping_reports (value : Option Json) :
    Reports (MappingDefect node value) (readMapping node value) := by
  unfold readMapping
  split
  · refine FirstDefect.only .absent ?_
    rintro other found ⟨⟩
    exact ⟨rfl, rfl⟩
  · intro place error isDefect
    cases isDefect with
    | form noString => cases noString
  · next members =>
      refine Reports.congr (fun place error => ⟨.field, ?_⟩)
        ((readFields_reports node members).bind_ok _)
      rintro (_ | ⟨-, noObject⟩ | isDefect)
      · exact absurd rfl (noObject members)
      · exact isDefect
  · next other noString noObject =>
      refine FirstDefect.only (.form ?_ noObject) ?_
      · cases other with
        | string source => exact absurd rfl (noString source)
        | null | bool | number | array | object => rfl
      · intro place found isDefect
        cases isDefect with
        | form => exact ⟨rfl, rfl⟩
        | field => exact absurd rfl (noObject _)

theorem recordDefect_iff (record : Json) (event : String)
    (isEvent : record.get? "eventName" = some (.string event))
    (place : Place) (error : CompileError) :
    under 1 (MappingDefect node (record.get? "mapping")) place error ↔
      RecordDefect node record place error := by
  constructor
  · rintro ⟨inner, rfl, isDefect⟩
    exact .mapping isDefect
  · intro isDefect
    cases isDefect with
    | event noEvent => exact absurd isEvent (noEvent event)
    | mapping isDefect => exact ⟨_, rfl, isDefect⟩

theorem readRecord_reports (record : Json) :
    Reports (RecordDefect node record) (readRecord node record) := by
  unfold readRecord
  split
  · next event isEvent =>
      refine Reports.congr (recordDefect_iff node record event isEvent) ?_
      exact ((readMapping_reports node _).under 1).bind_ok _
  · next noEvent =>
      refine ⟨[0], .event noEvent, ?_⟩
      intro other found isDefect
      cases isDefect with
      | event => exact .inr ⟨rfl, rfl⟩
      | mapping => exact .inl (.rel Nat.one_pos)

theorem firstDefect_of_actionForm {error : CompileError}
    (failed : actionForm node members = .error error) :
    FirstDefect (ActionDefect node (members.lookup "then")) error := by
  unfold actionForm at failed
  split at failed
  · next absent =>
      cases failed
      rw [absent]
      refine FirstDefect.only .absent ?_
      rintro other found ⟨⟩
      exact ⟨rfl, rfl⟩
  · next parts isThen =>
      rw [isThen]
      split at failed
      · cases failed
      · next noRecord =>
          split at failed
          · next noExecution =>
              cases failed
              refine FirstDefect.only (.unknown noRecord noExecution) ?_
              intro other found isDefect
              cases isDefect with
              | form noObject => exact absurd rfl (noObject parts)
              | unknown => exact ⟨rfl, rfl⟩
              | recordEvent isRecord => cases noRecord.symm.trans isRecord
              | rules _ isExecuted => cases noExecution.symm.trans isExecuted
              | executeRules _ isExecuted =>
                  cases noExecution.symm.trans isExecuted
          · next executed isExecuted =>
              split at failed
              · cases failed
              · next noRules =>
                  cases failed
                  refine FirstDefect.only
                    (.rules noRecord isExecuted noRules) ?_
                  intro other found isDefect
                  cases isDefect with
                  | form noObject => exact absurd rfl (noObject parts)
                  | unknown _ noExecution =>
                      cases noExecution.symm.trans isExecuted
                  | recordEvent isRecord => cases noRecord.symm.trans isRecord
                  | rules => exact ⟨rfl, rfl⟩
                  | executeRules _ isOther isRules =>
                      cases isExecuted.symm.trans isOther
                      cases noRules.symm.trans isRules
  · next action noObject isThen =>
      cases failed
      rw [isThen]
      refine FirstDefect.only (.form noObject) ?_
      intro other found isDefect
      cases isDefect with
      | form => exact ⟨rfl, rfl⟩
      | unknown | recordEvent | rules | executeRules =>
          exact absurd rfl (noObject _)

/-- The defects of an action whose form is known. -/
def FormedDefect : ActionForm → Defects
  | .record record => RecordDefect node record
  | .execute rules => RulesDefect node rules

theorem formedDefect_iff {action : Json} {form : ActionForm}
    (formed : HasForm action form) (place : Place) (error : CompileError) :
    FormedDefect node form place error ↔
      ActionDefect node (some action) place error := by
  cases formed with
  | record isRecord =>
      refine ⟨.recordEvent isRecord, fun isDefect => ?_⟩
      cases isDefect with
      | form noObject => exact absurd rfl (noObject _)
      | recordEvent isOther isDefect =>
          cases isRecord.symm.trans isOther
          exact isDefect
      | unknown noRecord | rules noRecord | executeRules noRecord =>
          cases noRecord.symm.trans isRecord
  | execute noRecord isExecuted isRules =>
      refine ⟨.executeRules noRecord isExecuted isRules, fun isDefect => ?_⟩
      cases isDefect with
      | form noObject => exact absurd rfl (noObject _)
      | unknown _ noExecution => cases noExecution.symm.trans isExecuted
      | recordEvent isRecord => cases noRecord.symm.trans isRecord
      | rules _ isOther noRules =>
          cases isExecuted.symm.trans isOther
          cases noRules.symm.trans isRules
      | executeRules _ isOther isInner isDefect =>
          cases isExecuted.symm.trans isOther
          cases isRules.symm.trans isInner
          exact isDefect

/-- The defects of the rules in a list. -/
def ItemsDefect (items : List Json) : Defects :=
  fun place error => ∃ index item inner, items[index]? = some item ∧
    place = index :: inner ∧ RuleDefect node item inner error

theorem itemsDefect_iff (items : List Json) (place : Place)
    (error : CompileError) :
    ItemsDefect node items place error ↔
      RulesDefect node (.array items) place error := by
  constructor
  · rintro ⟨index, item, inner, isItem, rfl, isDefect⟩
    exact .item isItem isDefect
  · intro isDefect
    cases isDefect with
    | form _ noArray => exact absurd rfl (noArray items)
    | item isItem isDefect => exact ⟨_, _, _, isItem, rfl, isDefect⟩

theorem itemsDefect_cons_iff (item : Json) (rest : List Json) (place : Place)
    (error : CompileError) :
    under 0 (RuleDefect node item) place error ∨
        shifted (ItemsDefect node rest) place error ↔
      ItemsDefect node (item :: rest) place error := by
  constructor
  · rintro (⟨inner, rfl, isDefect⟩ |
      ⟨_, rfl, index, later, inner, isItem, rfl, isDefect⟩)
    · exact ⟨0, item, inner, rfl, rfl, isDefect⟩
    · exact ⟨index + 1, later, inner, isItem, rfl, isDefect⟩
  · rintro ⟨index, later, inner, isItem, rfl, isDefect⟩
    cases index with
    | zero =>
        cases isItem
        exact .inl ⟨inner, rfl, isDefect⟩
    | succ index =>
        exact .inr ⟨_, rfl, index, later, inner, isItem, rfl, isDefect⟩

/-- The defects of a rule that can be there once its type is known. -/
def TypedDefect : RuleKind → Defects
  | .always => under 2 (ActionDefect node (members.lookup "then"))
  | .condition => fun place error =>
      under 1 (ConditionDefect node members) place error ∨
        under 2 (ActionDefect node (members.lookup "then")) place error ∨
          atPlace [3] (StopDefect node members) place error

theorem typedDefect_iff {kind : RuleKind}
    (isKind : members.lookup "type" = some (.string kind.word))
    (place : Place) (error : CompileError) :
    TypedDefect node members kind place error ↔
      RuleDefect node (.object members) place error := by
  have noKindDefect : ¬ KindDefect node members error := by
    rw [← readKind_eq_error_iff, readKind_eq_ok node isKind]
    simp
  constructor
  · intro isDefect
    cases kind with
    | always =>
        obtain ⟨inner, rfl, isDefect⟩ := isDefect
        exact .action isDefect
    | condition =>
        rcases isDefect with
          ⟨inner, rfl, isDefect⟩ | ⟨inner, rfl, isDefect⟩ | ⟨rfl, isDefect⟩
        · exact .condition isKind isDefect
        · exact .action isDefect
        · exact .stop isKind isDefect
  · intro isDefect
    cases isDefect with
    | form noObject => exact absurd rfl (noObject members)
    | kind isDefect => exact absurd isDefect noKindDefect
    | condition isCondition isDefect =>
        cases kind with
        | always => simp [RuleKind.word, isCondition] at isKind
        | condition => exact .inl ⟨_, rfl, isDefect⟩
    | action isDefect =>
        cases kind with
        | always => exact ⟨_, rfl, isDefect⟩
        | condition => exact .inr (.inl ⟨_, rfl, isDefect⟩)
    | stop isCondition isDefect =>
        cases kind with
        | always => simp [RuleKind.word, isCondition] at isKind
        | condition => exact .inr (.inr ⟨rfl, isDefect⟩)

/-- An unknown type is the first defect of a rule, whatever else is wrong. -/
theorem firstDefect_kind {error : CompileError}
    (isDefect : KindDefect node members error) :
    FirstDefect (RuleDefect node (.object members)) error := by
  refine ⟨[0], .kind isDefect, ?_⟩
  intro other found isOther
  cases isOther with
  | form noObject => exact absurd rfl (noObject members)
  | kind isOther =>
      rw [← readKind_eq_error_iff] at isDefect isOther
      cases isDefect.symm.trans isOther
      exact .inr ⟨rfl, rfl⟩
  | condition => exact .inl (.rel Nat.one_pos)
  | action => exact .inl (.rel Nat.two_pos)
  | stop => exact .inl (.rel (by decide))

end

-- The recursion is the one of the reader. A part has the positions of the rule
-- or the list around it in front, and `Reports.under` puts them there.
mutual

theorem readRules_reports (node : Node) (value : Json) :
    Reports (RulesDefect node value) (readRules node value) := by
  cases value with
  | null =>
      rw [readRules]
      intro place error isDefect
      cases isDefect with
      | form notNull => exact notNull rfl
  | array items =>
      have listed := readRuleItems_reports node items
      rw [readRules]
      exact listed.congr (itemsDefect_iff node items)
  | bool | number | string | object =>
      unfold readRules
      refine FirstDefect.only (.form (by simp) (by simp)) ?_
      rintro other found ⟨⟩
      exact ⟨rfl, rfl⟩
termination_by sizeOf value

theorem readRuleItems_reports (node : Node) (items : List Json) :
    Reports (ItemsDefect node items) (readRuleItems node items) := by
  cases items with
  | nil =>
      rw [readRuleItems]
      rintro place error ⟨index, item, inner, isItem, -⟩
      cases isItem
  | cons item rest =>
      rw [readRuleItems]
      refine Reports.congr (itemsDefect_cons_iff node item rest) ?_
      refine ((readRule_reports node item).under 0).bind (fun first _ => ?_) ?_
      · exact (readRuleItems_reports node rest).shifted.bind_ok _
      · rintro place error other found ⟨inner, rfl, -⟩
          ⟨_, rfl, index, item, inner, -, rfl, -⟩
        exact .rel (Nat.succ_pos index)
termination_by sizeOf items

theorem readRule_reports (node : Node) (value : Json) :
    Reports (RuleDefect node value) (readRule node value) := by
  cases value with
  | object members =>
      have kindMeets := readKind_meets node members
      rw [readRule]
      cases isKind : readKind node members with
      | error error =>
          exact firstDefect_kind node members
            ((readKind_eq_error_iff node members error).mp isKind)
      | ok kind =>
          rw [isKind] at kindMeets
          refine Reports.congr (typedDefect_iff node members kindMeets) ?_
          cases kind with
          | always =>
              exact ((readAction_reports node members).under 2).bind_ok _
          | condition =>
              refine ((readCondition_reports node members).under 1).bind
                (fun given _ => ?_) ?_
              · refine ((readAction_reports node members).under 2).bind
                  (fun acted _ => ?_) ?_
                · exact (reports_atPlace [3]
                    (readStop_eq_error_iff node members)).bind_ok _
                · rintro place error other found ⟨inner, rfl, -⟩ ⟨rfl, -⟩
                  exact .rel (by decide)
              · rintro place error other found ⟨inner, rfl, -⟩
                  (⟨inner, rfl, -⟩ | ⟨rfl, -⟩)
                · exact .rel (by decide)
                · exact .rel (by decide)
  | null | bool | number | string | array =>
      unfold readRule
      refine FirstDefect.only (.form (by simp)) ?_
      rintro other found ⟨⟩
      exact ⟨rfl, rfl⟩
termination_by sizeOf value

theorem readAction_reports (node : Node) (members : List (String × Json)) :
    Reports (ActionDefect node (members.lookup "then"))
      (readAction node members) := by
  have formed := actionForm_meets node members
  rw [readAction]
  split
  · next error isError => exact firstDefect_of_actionForm node members isError
  · next record isRecord =>
      rw [isRecord] at formed
      obtain ⟨action, isThen, form⟩ := formed
      rw [isThen]
      exact (readRecord_reports node record).congr (formedDefect_iff node form)
  · next value isExecute =>
      have listed := readRules_reports node value
      rw [isExecute] at formed
      obtain ⟨action, isThen, form⟩ := formed
      rw [isThen]
      exact (listed.congr (formedDefect_iff node form)).bind_ok _
termination_by sizeOf members
decreasing_by exact sizeOf_of_actionForm ‹_›

end

/-- Whether a value can be read as a rule. -/
def Readable (node : Node) (item : Json) : Prop :=
  ∃ rule, readRules node (.array [item]) = .ok rule

/-- Whether nothing is wrong in a rule before its action. -/
inductive ReadUpToAction (members : List (String × Json)) : Prop where
  | always :
      List.lookup "type" members = some (.string "always") →
      ReadUpToAction members
  | condition :
      List.lookup "type" members = some (.string "condition") →
      DenotesCondition members given →
      ReadUpToAction members

/-- The values around a list of rules of which all is right that is read before
the inner list. What is read after it may be anything. -/
inductive Encloses (node : Node) (inner : Json) : Json → Prop where
  | here : Encloses node inner inner
  | within :
      (∀ earlier ∈ before, Readable node earlier) →
      ReadUpToAction members →
      List.lookup "then" members = some action →
      HasForm action (.execute executed) →
      Encloses node inner executed →
      Encloses node inner (.array (before ++ .object members :: after))

section

variable {node : Node}

theorem readRules_singleton (item : Json) :
    readRules node (.array [item]) =
      (readRule node item).map fun rule => [rule] := by
  rw [readRules, readRuleItems, readRuleItems]
  cases readRule node item with
  | error error => rfl
  | ok rule => rfl

theorem readable_iff {item : Json} :
    Readable node item ↔ ∃ rule, readRule node item = .ok rule := by
  unfold Readable
  rw [readRules_singleton]
  cases readRule node item with
  | error error => exact iff_of_false (by rintro ⟨_, ⟨⟩⟩) (by rintro ⟨_, ⟨⟩⟩)
  | ok rule => exact iff_of_true ⟨_, rfl⟩ ⟨_, rfl⟩

theorem not_readable_iff {item : Json} :
    ¬ Readable node item ↔ ∃ error, readRule node item = .error error := by
  rw [readable_iff]
  cases readRule node item with
  | error error =>
      exact iff_of_true (by rintro ⟨_, ⟨⟩⟩) ⟨_, rfl⟩
  | ok rule => exact iff_of_false (not_not_intro ⟨_, rfl⟩) (by rintro ⟨_, ⟨⟩⟩)

/-- Behind rules that can be read, one that cannot settles the outcome. -/
theorem readRules_append {before after : List Json} {item : Json}
    {error : CompileError}
    (readable : ∀ earlier ∈ before, Readable node earlier)
    (failed : readRule node item = .error error) :
    readRules node (.array (before ++ item :: after)) = .error error := by
  rw [readRules]
  induction before with
  | nil =>
      rw [List.nil_append, readRuleItems, failed]
      rfl
  | cons first others ih =>
      obtain ⟨rule, isRule⟩ := readable_iff.mp (readable first (by simp))
      rw [List.cons_append, readRuleItems, isRule,
        ih fun earlier isEarlier => readable earlier (by simp [isEarlier])]
      rfl

theorem readRule_of_action {members : List (String × Json)}
    {error : CompileError} (upToAction : ReadUpToAction members)
    (failed : readAction node members = .error error) :
    readRule node (.object members) = .error error := by
  rw [readRule]
  cases upToAction with
  | always isAlways =>
      have kind : readKind node members = .ok .always :=
        readKind_eq_ok node isAlways
      simp only [kind, failed]
      rfl
  | condition isCondition given =>
      have kind : readKind node members = .ok .condition :=
        readKind_eq_ok node isCondition
      simp only [kind, readCondition_eq_ok node given, failed]
      rfl

theorem Encloses.eq_error {inner outer : Json} {error : CompileError}
    (encloses : Encloses node inner outer)
    (failed : readRules node inner = .error error) :
    readRules node outer = .error error := by
  induction encloses with
  | here => exact failed
  | within readable upToAction isThen form _ ih =>
      refine readRules_append readable (readRule_of_action upToAction ?_)
      rw [readAction_execute node (actionForm_eq_ok node isThen form), ih]
      rfl

end

/-- A value is rejected with the error of its first defect, in the order in
which a configuration is read, and it is accepted if it has none. So behind
rules that can be read, and at every depth, the first rule that cannot be read
settles the error as if it stood alone. -/
theorem readRules_reports_first_defect (node : Node) :
    (∀ value error,
      readRules node value = .error error ↔
        FirstDefect (RulesDefect node value) error) ∧
      (∀ value,
        (∃ denoted, readRules node value = .ok denoted) ↔
          ∀ place error, ¬ RulesDefect node value place error) ∧
      ∀ before item after outer,
        (∀ earlier ∈ before, Readable node earlier) →
        ¬ Readable node item →
        Encloses node (.array (before ++ item :: after)) outer →
        readRules node outer = readRules node (.array [item]) := by
  refine ⟨?_, ?_, ?_⟩
  · exact fun value => (readRules_reports node value).eq_error_iff
  · exact fun value => (readRules_reports node value).eq_ok_iff
  · intro before item after outer readable unreadable encloses
    obtain ⟨error, failed⟩ := not_readable_iff.mp unreadable
    rw [encloses.eq_error (readRules_append readable failed),
      readRules_singleton, failed]
    rfl

end Configuration

open AggregateRules.Configuration

namespace Sample

/-- A rule with a wrong `ifNot` and no action. -/
def unconditionalMembers : List (String × Json) :=
  [("type", .string "condition"), ("ifNot", .bool true)]

/-- A rule with a wrong `stop` that executes rules, of which the second one and
the third one are wrong. -/
def stoppingMembers : List (String × Json) :=
  [("type", .string "condition"), ("stop", .string "never"),
    ("if", .string "open"),
    ("then", .object
      [("executeRules", .object
        [("rules", .array
          ([.object plainMembers] ++ .object unconditionalMembers ::
            [.string "always"]))])])]

theorem inner_rule_is_reported_before_stop :
    readRules order
        (.array ([.object plainMembers] ++ .object stoppingMembers ::
          [.null])) =
        .error (.malformedConfiguration order.describe
          "'ifNot' must be an expression string, found true") ∧
      RulesDefect order
        (.array ([.object plainMembers] ++ .object stoppingMembers :: [.null]))
        [1, 3]
        (.malformedConfiguration order.describe
          "'stop' must be a boolean, found \"never\"") := by
  have reports := (readRules_reports_first_defect order).2.2
  have readable : ∀ earlier ∈ [Json.object plainMembers],
      Readable order earlier := by
    intro earlier isEarlier
    rw [List.mem_singleton.mp isEarlier, readable_iff]
    exact ⟨_, readRule_eq_ok order (.always rfl rfl
      (.recordEvent rfl (.record rfl rfl .fields)))⟩
  have failed : readRule order (.object unconditionalMembers) =
      .error (.malformedConfiguration order.describe
        "'ifNot' must be an expression string, found true") := by
    rw [readRule]
    rfl
  have unreadable : ¬ Readable order (.object unconditionalMembers) :=
    not_readable_iff.mpr ⟨_, failed⟩
  constructor
  · rw [reports _ _ _ _ readable unreadable (.within readable
      (.condition rfl (.positive rfl (.inl rfl))) rfl (.execute rfl rfl rfl)
      .here), readRules_singleton, failed]
    rfl
  · have isStop : stoppingMembers.lookup "stop" = some (.string "never") := rfl
    exact .item rfl (.stop rfl (.form isStop (by simp) (by simp)))

end Sample

end AggregateRules
