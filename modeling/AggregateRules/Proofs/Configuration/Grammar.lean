import AggregateRules.Configuration.Basic
import AggregateRules.Proofs.Compilation.Generation

/-!
# The grammar of rules

Which JSON values are lists of rules is said here once more, as a grammar: what
each part must hold, and the rules that it then denotes. Members that the
grammar does not name are free. The reader accepts exactly the values of the
grammar and gives the rules that they denote, see `readRules_follows_grammar`;
every other value gives an error about its form.
-/

namespace AggregateRules

/-- Whether an error is about the form of a configuration, and not about what it
says. -/
def CompileError.isStructural : CompileError → Bool
  | .missingCondition .. | .conflictingCondition .. | .unknownRuleKind ..
  | .unknownAction .. | .malformedConfiguration .. => true
  | .duplicateVariable .. | .qualifiedEventName .. | .eventNotConnected ..
  | .reservedVariableName .. | .invalidClassName .. | .collaborator .. => false

namespace Configuration

/-- A member that is absent or null. -/
def Vacant (members : List (String × Json)) (name : String) : Prop :=
  members.lookup name = none ∨ members.lookup name = some .null

/-- The one condition that the members of a rule give. -/
inductive DenotesCondition (members : List (String × Json)) :
    Condition → Prop where
  | positive :
      List.lookup "if" members = some (.string source) →
      Vacant members "ifNot" →
      DenotesCondition members ⟨⟨source⟩, false⟩
  | negative :
      Vacant members "if" →
      List.lookup "ifNot" members = some (.string source) →
      DenotesCondition members ⟨⟨source⟩, true⟩

inductive DenotesStop (members : List (String × Json)) : Bool → Prop where
  | vacant :
      Vacant members "stop" →
      DenotesStop members false
  | given :
      List.lookup "stop" members = some (.bool stops) →
      DenotesStop members stops

/-- The members that hold the expressions of fields, in their order. -/
def fieldMembers (fields : List (String × Expression)) : List (String × Json) :=
  fields.map fun (name, value) => (name, .string value.source)

inductive DenotesMapping : Json → Mapping → Prop where
  | expression : DenotesMapping (.string source) (.expression ⟨source⟩)
  | fields : DenotesMapping (.object (fieldMembers fields)) (.ofFields fields)

inductive DenotesRecord : Json → Action → Prop where
  | record :
      List.lookup "eventName" record = some (.string event) →
      List.lookup "mapping" record = some data →
      DenotesMapping data mapping →
      DenotesRecord (.object record) (.recordEvent event mapping)

mutual

/-- The values that are lists of rules, with the rules that they denote. -/
inductive DenotesRules : Json → List Rule → Prop where
  | null : DenotesRules .null []
  | array :
      DenotesItems items denoted →
      DenotesRules (.array items) denoted

inductive DenotesItems : List Json → List Rule → Prop where
  | nil : DenotesItems [] []
  | cons :
      DenotesRule item rule →
      DenotesItems rest denoted →
      DenotesItems (item :: rest) (rule :: denoted)

inductive DenotesRule : Json → Rule → Prop where
  | always :
      List.lookup "type" members = some (.string "always") →
      List.lookup "then" members = some action →
      DenotesAction action acted →
      DenotesRule (.object members) (.always acted)
  | condition :
      List.lookup "type" members = some (.string "condition") →
      DenotesCondition members given →
      List.lookup "then" members = some action →
      DenotesAction action acted →
      DenotesStop members stops →
      DenotesRule (.object members) (.condition given acted stops)

inductive DenotesAction : Json → Action → Prop where
  | recordEvent :
      List.lookup "recordEvent" parts = some record →
      DenotesRecord record acted →
      DenotesAction (.object parts) acted
  | executeRules :
      List.lookup "recordEvent" parts = none →
      List.lookup "executeRules" parts = some executed →
      DenotesExecution executed acted →
      DenotesAction (.object parts) acted

inductive DenotesExecution : Json → Action → Prop where
  | rules :
      List.lookup "rules" executed = some value →
      DenotesRules value denoted →
      DenotesExecution (.object executed) (.executeRules denoted)

end

/-- Whether an outcome is a value with one property or an error with another. -/
def Meets (valued : α → Prop) (faulty : ε → Prop) : Except ε α → Prop
  | .ok value => valued value
  | .error error => faulty error

theorem Meets.imp {outcome : Except ε α} {valued weaker : α → Prop}
    {faulty : ε → Prop} (meets : Meets valued faulty outcome)
    (implies : ∀ value, valued value → weaker value) :
    Meets weaker faulty outcome := by
  cases outcome with
  | error error => exact meets
  | ok value => exact implies value meets

theorem Meets.bind {first : Except ε α} {next : α → Except ε β}
    {firstValued : α → Prop} {valued : β → Prop} {faulty : ε → Prop}
    (firstMeets : Meets firstValued faulty first)
    (nextMeets : ∀ value, firstValued value →
      Meets valued faulty (next value)) :
    Meets valued faulty (first >>= next) := by
  cases first with
  | error error => exact firstMeets
  | ok value => exact nextMeets value firstMeets

/-- The word for a kind of rules. -/
def RuleKind.word : RuleKind → String
  | .always => "always"
  | .condition => "condition"

/-- What an action form is, given the action that it is the form of. -/
inductive HasForm : Json → ActionForm → Prop where
  | record :
      List.lookup "recordEvent" parts = some record →
      HasForm (.object parts) (.record record)
  | execute :
      List.lookup "recordEvent" parts = none →
      List.lookup "executeRules" parts = some (.object executed) →
      List.lookup "rules" executed = some value →
      HasForm (.object parts) (.execute value)

section

variable (node : Node) (members : List (String × Json))

theorem readKind_meets :
    Meets (fun kind => members.lookup "type" = some (.string kind.word))
      (CompileError.isStructural ·) (readKind node members) := by
  unfold readKind
  split
  · rfl
  · next name isName =>
      split
      · next isAlways =>
          subst isAlways
          exact isName
      · split
        · next isCondition =>
            subst isCondition
            exact isName
        · rfl
  · rfl

/-- What an expression that may be absent or null is read as. -/
def DenotesExpression? (members : List (String × Json)) (name : String) :
    Option Expression → Prop
  | none => Vacant members name
  | some value => members.lookup name = some (.string value.source)

theorem readExpression?_meets (name : String) :
    Meets (DenotesExpression? members name) (CompileError.isStructural ·)
      (readExpression? node members name) := by
  unfold readExpression?
  split
  · next absent => exact .inl absent
  · next isNull => exact .inr isNull
  · next source isSource => exact isSource
  · rfl

theorem readCondition_meets :
    Meets (DenotesCondition members) (CompileError.isStructural ·)
      (readCondition node members) := by
  unfold readCondition
  refine (readExpression?_meets node members "if").bind fun positive holds => ?_
  refine (readExpression?_meets node members "ifNot").bind
    fun negative fails => ?_
  cases positive with
  | none =>
      cases negative with
      | none => rfl
      | some test => exact .negative holds fails
  | some test =>
      cases negative with
      | none => exact .positive holds fails
      | some other => rfl

theorem readStop_meets :
    Meets (DenotesStop members) (CompileError.isStructural ·)
      (readStop node members) := by
  unfold readStop
  split
  · next absent => exact .vacant (.inl absent)
  · next isNull => exact .vacant (.inr isNull)
  · next stops isStop => exact .given isStop
  · rfl

theorem readFields_meets :
    Meets (fun fields => members = fieldMembers fields)
      (CompileError.isStructural ·) (readFields node members) := by
  induction members with
  | nil => rfl
  | cons member rest ih =>
      obtain ⟨name, value⟩ := member
      cases value with
      | string source =>
          refine ih.bind fun fields isRest => ?_
          rw [isRest]
          rfl
      | null | bool | number | array | object => rfl

theorem readMapping_meets (value : Option Json) :
    Meets (fun mapping => ∃ data, value = some data ∧
        DenotesMapping data mapping)
      (CompileError.isStructural ·) (readMapping node value) := by
  unfold readMapping
  split
  · rfl
  · exact ⟨_, rfl, .expression⟩
  · next members =>
      refine (readFields_meets node members).bind fun fields areFields => ?_
      subst areFields
      exact ⟨_, rfl, .fields⟩
  · rfl

theorem readRecord_meets (record : Json) :
    Meets (DenotesRecord record) (CompileError.isStructural ·)
      (readRecord node record) := by
  unfold readRecord
  split
  · next event isEvent =>
      refine (readMapping_meets node _).bind ?_
      rintro mapping ⟨data, isData, denotes⟩
      -- Only an object has members, so the record is one.
      cases record with
      | object members => exact .record isEvent isData denotes
      | null | bool | number | string | array => cases isEvent
  · rfl

theorem actionForm_meets :
    Meets (fun form => ∃ action, members.lookup "then" = some action ∧
        HasForm action form)
      (CompileError.isStructural ·) (actionForm node members) := by
  unfold actionForm
  split
  · rfl
  · next parts isThen =>
      split
      · next record isRecord => exact ⟨_, isThen, .record isRecord⟩
      · next noRecord =>
          split
          · rfl
          · next executed isExecuted =>
              split
              · next value isValue =>
                  cases executed with
                  | object inner =>
                      exact ⟨_, isThen, .execute noRecord isExecuted isValue⟩
                  | null | bool | number | string | array => cases isValue
              · rfl
  · rfl

end

-- The recursion is the one of the reader: what an action executes is smaller
-- than the rule of the action.
mutual

theorem readRules_meets (node : Node) (value : Json) :
    Meets (DenotesRules value) (CompileError.isStructural ·)
      (readRules node value) := by
  cases value with
  | null =>
      rw [readRules]
      exact .null
  | array items =>
      have listed := readRuleItems_meets node items
      rw [readRules]
      exact listed.imp fun denoted denotes => .array denotes
  | bool | number | string | object =>
      unfold readRules
      rfl
termination_by sizeOf value

theorem readRuleItems_meets (node : Node) (items : List Json) :
    Meets (DenotesItems items) (CompileError.isStructural ·)
      (readRuleItems node items) := by
  cases items with
  | nil =>
      rw [readRuleItems]
      exact .nil
  | cons item rest =>
      rw [readRuleItems]
      refine (readRule_meets node item).bind fun rule first => ?_
      refine (readRuleItems_meets node rest).bind fun denoted others => ?_
      exact .cons first others
termination_by sizeOf items

theorem readRule_meets (node : Node) (value : Json) :
    Meets (DenotesRule value) (CompileError.isStructural ·)
      (readRule node value) := by
  cases value with
  | object members =>
      rw [readRule]
      refine (readKind_meets node members).bind fun kind isKind => ?_
      cases kind with
      | always =>
          refine (readAction_meets node members).bind ?_
          rintro acted ⟨action, isThen, denotes⟩
          exact .always isKind isThen denotes
      | condition =>
          refine (readCondition_meets node members).bind fun given holds => ?_
          refine (readAction_meets node members).bind ?_
          rintro acted ⟨action, isThen, denotes⟩
          refine (readStop_meets node members).bind fun stops ends => ?_
          exact .condition isKind holds isThen denotes ends
  | null | bool | number | string | array =>
      unfold readRule
      rfl
termination_by sizeOf value

theorem readAction_meets (node : Node) (members : List (String × Json)) :
    Meets (fun acted => ∃ action, members.lookup "then" = some action ∧
        DenotesAction action acted)
      (CompileError.isStructural ·) (readAction node members) := by
  have formed := actionForm_meets node members
  rw [readAction]
  split
  · next error isError =>
      rw [isError] at formed
      exact formed
  · next record isRecord =>
      rw [isRecord] at formed
      obtain ⟨action, isThen, form⟩ := formed
      cases form with
      | record recorded =>
          refine (readRecord_meets node record).imp fun acted denotes => ?_
          exact ⟨_, isThen, .recordEvent recorded denotes⟩
  · next value isExecute =>
      rw [isExecute] at formed
      obtain ⟨action, isThen, form⟩ := formed
      refine (readRules_meets node value).bind fun denoted executed => ?_
      cases form with
      | execute noRecord isExecuted isRules =>
          exact ⟨_, isThen,
            .executeRules noRecord isExecuted (.rules isRules executed)⟩
termination_by sizeOf members
decreasing_by exact sizeOf_of_actionForm ‹_›

end

section

variable (node : Node) {members : List (String × Json)}

theorem readKind_eq_ok {kind : RuleKind}
    (isKind : members.lookup "type" = some (.string kind.word)) :
    readKind node members = .ok kind := by
  unfold readKind
  rw [isKind]
  cases kind <;> rfl

theorem readExpression?_eq_ok {name : String} {value : Option Expression}
    (denotes : DenotesExpression? members name value) :
    readExpression? node members name = .ok value := by
  unfold readExpression?
  cases value with
  | none =>
      rcases denotes with absent | isNull
      · rw [absent]
      · rw [isNull]
  | some value => rw [denotes]

theorem readCondition_eq_ok {given : Condition}
    (denotes : DenotesCondition members given) :
    readCondition node members = .ok given := by
  unfold readCondition
  cases denotes with
  | @positive source holds vacant =>
      have positive :
          readExpression? node members "if" = .ok (some ⟨source⟩) :=
        readExpression?_eq_ok node holds
      have negative : readExpression? node members "ifNot" = .ok none :=
        readExpression?_eq_ok node vacant
      rw [positive, negative]
      rfl
  | @negative source vacant fails =>
      have positive : readExpression? node members "if" = .ok none :=
        readExpression?_eq_ok node vacant
      have negative :
          readExpression? node members "ifNot" = .ok (some ⟨source⟩) :=
        readExpression?_eq_ok node fails
      rw [positive, negative]
      rfl

theorem readStop_eq_ok {stops : Bool} (denotes : DenotesStop members stops) :
    readStop node members = .ok stops := by
  unfold readStop
  cases denotes with
  | vacant vacant =>
      rcases vacant with absent | isNull
      · rw [absent]
      · rw [isNull]
  | given isStop => rw [isStop]

theorem readFields_fieldMembers (fields : List (String × Expression)) :
    readFields node (fieldMembers fields) = .ok fields := by
  induction fields with
  | nil => rfl
  | cons field rest ih =>
      obtain ⟨name, value⟩ := field
      have shape : fieldMembers ((name, value) :: rest) =
          (name, .string value.source) :: fieldMembers rest := rfl
      rw [shape, readFields, ih]
      rfl

theorem readMapping_eq_ok {data : Json} {mapping : Mapping}
    (denotes : DenotesMapping data mapping) :
    readMapping node (some data) = .ok mapping := by
  cases denotes with
  | expression => rfl
  | @fields fields =>
      rw [readMapping, readFields_fieldMembers]
      rfl

theorem readRecord_eq_ok {record : Json} {acted : Action}
    (denotes : DenotesRecord record acted) :
    readRecord node record = .ok acted := by
  cases denotes with
  | record isEvent isData isMapping =>
      unfold readRecord
      simp only [Json.get?, isEvent, isData, readMapping_eq_ok node isMapping]
      rfl

theorem actionForm_eq_ok {action : Json} {form : ActionForm}
    (isThen : members.lookup "then" = some action)
    (formed : HasForm action form) : actionForm node members = .ok form := by
  unfold actionForm
  cases formed with
  | record isRecord => simp only [isThen, isRecord]
  | execute noRecord isExecuted isValue =>
      simp only [isThen, noRecord, isExecuted, Json.get?, isValue]

theorem readAction_record {record : Json}
    (form : actionForm node members = .ok (.record record)) :
    readAction node members = readRecord node record := by
  rw [readAction]
  split
  · next error isError => cases form.symm.trans isError
  · next other isRecord =>
      cases form.symm.trans isRecord
      rfl
  · next value isExecute => cases form.symm.trans isExecute

theorem readAction_execute {value : Json}
    (form : actionForm node members = .ok (.execute value)) :
    readAction node members = (readRules node value).map .executeRules := by
  rw [readAction]
  split
  · next error isError => cases form.symm.trans isError
  · next record isRecord => cases form.symm.trans isRecord
  · next other isExecute =>
      cases form.symm.trans isExecute
      cases readRules node value <;> rfl

end

-- The recursion is on how a value follows the grammar, so that no value has to
-- be smaller than another one.
mutual

theorem readRules_eq_ok (node : Node) {value : Json} {denoted : List Rule}
    (denotes : DenotesRules value denoted) :
    readRules node value = .ok denoted :=
  match denotes with
  | .null => by rw [readRules]
  | .array listed => by
      rw [readRules]
      exact readRuleItems_eq_ok node listed

theorem readRuleItems_eq_ok (node : Node) {items : List Json}
    {denoted : List Rule} (denotes : DenotesItems items denoted) :
    readRuleItems node items = .ok denoted :=
  match denotes with
  | .nil => by rw [readRuleItems]
  | .cons first others => by
      rw [readRuleItems, readRule_eq_ok node first,
        readRuleItems_eq_ok node others]
      rfl

theorem readRule_eq_ok (node : Node) {value : Json} {rule : Rule}
    (denotes : DenotesRule value rule) : readRule node value = .ok rule :=
  match denotes with
  | .always isAlways isThen acted => by
      have kind : readKind node _ = .ok .always := readKind_eq_ok node isAlways
      have action := readAction_eq_ok node isThen acted
      rw [readRule]
      simp only [kind, action]
      rfl
  | .condition isCondition given isThen acted ends => by
      have kind : readKind node _ = .ok .condition :=
        readKind_eq_ok node isCondition
      have condition := readCondition_eq_ok node given
      have action := readAction_eq_ok node isThen acted
      have stop := readStop_eq_ok node ends
      rw [readRule]
      simp only [kind, condition, action, stop]
      rfl

/-- An action is read wherever it is the action of a rule. -/
theorem readAction_eq_ok (node : Node) {members : List (String × Json)}
    {action : Json} {acted : Action}
    (isThen : members.lookup "then" = some action)
    (denotes : DenotesAction action acted) :
    readAction node members = .ok acted :=
  match denotes with
  | .recordEvent isRecord recorded => by
      have form := actionForm_eq_ok node isThen (.record isRecord)
      rw [readAction_record node form]
      exact readRecord_eq_ok node recorded
  | .executeRules noRecord isExecuted (.rules isValue executed) => by
      have form :=
        actionForm_eq_ok node isThen (.execute noRecord isExecuted isValue)
      rw [readAction_execute node form, readRules_eq_ok node executed]
      rfl

end

theorem readRules_eq_ok_iff {node : Node} {value : Json}
    {denoted : List Rule} :
    readRules node value = .ok denoted ↔ DenotesRules value denoted := by
  constructor
  · intro read
    have meets := readRules_meets node value
    rw [read] at meets
    exact meets
  · exact readRules_eq_ok node

theorem isStructural_of_readRules {node : Node} {value : Json}
    {error : CompileError} (failed : readRules node value = .error error) :
    error.isStructural = true := by
  have meets := readRules_meets node value
  rw [failed] at meets
  exact meets

/-- Whether two lists of members hold the same under some names. -/
def AgreeOn (names : List String) (left right : List (String × Json)) : Prop :=
  ∀ name ∈ names, left.lookup name = right.lookup name

theorem Vacant.congr {left right : List (String × Json)} {name : String}
    (vacant : Vacant left name)
    (same : left.lookup name = right.lookup name) : Vacant right name := by
  rw [Vacant, ← same]
  exact vacant

theorem DenotesCondition.congr {left right : List (String × Json)}
    {given : Condition} (denotes : DenotesCondition left given)
    (sameIf : left.lookup "if" = right.lookup "if")
    (sameIfNot : left.lookup "ifNot" = right.lookup "ifNot") :
    DenotesCondition right given := by
  cases denotes with
  | positive holds vacant =>
      exact .positive (sameIf ▸ holds) (vacant.congr sameIfNot)
  | negative vacant fails =>
      exact .negative (vacant.congr sameIf) (sameIfNot ▸ fails)

theorem DenotesStop.congr {left right : List (String × Json)} {stops : Bool}
    (denotes : DenotesStop left stops)
    (same : left.lookup "stop" = right.lookup "stop") :
    DenotesStop right stops := by
  cases denotes with
  | vacant vacant => exact .vacant (vacant.congr same)
  | given isStop => exact .given (same ▸ isStop)

/-- Whether an object that denotes something goes on to denote it as long as it
holds the same under some names. -/
def ReadsOnly (denotes : Json → α → Prop) (names : α → List String) : Prop :=
  ∀ members others denoted, denotes (.object members) denoted →
    AgreeOn (names denoted) members others → denotes (.object others) denoted

/-- The members of the object of a rule that the grammar names. -/
def ruleMembers : Rule → List String
  | .always _ => ["type", "then"]
  | .condition .. => ["type", "if", "ifNot", "then", "stop"]

/-- The members of the object of an action that the grammar names. -/
def actionMembers : Action → List String
  | .recordEvent .. => ["recordEvent"]
  | .executeRules _ => ["recordEvent", "executeRules"]

theorem readsOnly_rule : ReadsOnly DenotesRule ruleMembers := by
  intro members others rule denotes agree
  cases denotes with
  | always isAlways isThen acted =>
      rw [agree "type" (by simp [ruleMembers])] at isAlways
      rw [agree "then" (by simp [ruleMembers])] at isThen
      exact .always isAlways isThen acted
  | condition isCondition given isThen acted ends =>
      rw [agree "type" (by simp [ruleMembers])] at isCondition
      rw [agree "then" (by simp [ruleMembers])] at isThen
      have sameIf := agree "if" (by simp [ruleMembers])
      have sameIfNot := agree "ifNot" (by simp [ruleMembers])
      have sameStop := agree "stop" (by simp [ruleMembers])
      exact .condition isCondition (given.congr sameIf sameIfNot) isThen acted
        (ends.congr sameStop)

theorem readsOnly_action : ReadsOnly DenotesAction actionMembers := by
  intro members others action denotes agree
  cases denotes with
  | recordEvent isRecord recorded =>
      cases recorded with
      | record isEvent isData data =>
          rw [agree "recordEvent" (by simp [actionMembers])] at isRecord
          exact .recordEvent isRecord (.record isEvent isData data)
  | executeRules noRecord isExecuted executed =>
      cases executed with
      | rules isRules listed =>
          rw [agree "recordEvent" (by simp [actionMembers])] at noRecord
          rw [agree "executeRules" (by simp [actionMembers])] at isExecuted
          exact .executeRules noRecord isExecuted (.rules isRules listed)

theorem readsOnly_record :
    ReadsOnly DenotesRecord fun _ => ["eventName", "mapping"] := by
  intro members others action denotes agree
  cases denotes with
  | record isEvent isData data =>
      rw [agree "eventName" (by simp)] at isEvent
      rw [agree "mapping" (by simp)] at isData
      exact .record isEvent isData data

theorem readsOnly_execution :
    ReadsOnly DenotesExecution fun _ => ["rules"] := by
  intro members others action denotes agree
  cases denotes with
  | rules isRules listed =>
      rw [agree "rules" (by simp)] at isRules
      exact .rules isRules listed

/-- The fields of a mapping are the members of its object, in their order. -/
theorem DenotesMapping.fields_of_object {members : List (String × Json)}
    {mapping : Mapping} (denotes : DenotesMapping (.object members) mapping)
    (nodup : (members.map Prod.fst).Nodup) :
    ∃ fields, mapping = .fields fields ∧
      fieldMembers fields.entries = members := by
  cases denotes with
  | @fields fields =>
      have names : (fieldMembers fields).map Prod.fst =
          fields.map Prod.fst := by
        simp [fieldMembers]
      rw [names] at nodup
      refine ⟨OrderedMap.ofList fields, rfl, ?_⟩
      rw [OrderedMap.entries_ofList nodup]

/-- A value is read as a list of rules exactly if it follows the grammar, and
what is read is what it denotes. The fields of a mapping are the members of its
object in their order. At each depth the members that the grammar does not name
make no difference. -/
theorem readRules_follows_grammar (node : Node) :
    (∀ value denoted,
      readRules node value = .ok denoted ↔ DenotesRules value denoted) ∧
      (∀ members mapping, DenotesMapping (.object members) mapping →
        (members.map Prod.fst).Nodup →
        ∃ fields, mapping = .fields fields ∧
          fieldMembers fields.entries = members) ∧
      ReadsOnly DenotesRule ruleMembers ∧
      ReadsOnly DenotesAction actionMembers ∧
      (ReadsOnly DenotesRecord fun _ => ["eventName", "mapping"]) ∧
      ReadsOnly DenotesExecution fun _ => ["rules"] := by
  refine ⟨?_, ?_, ?_, ?_, ?_, ?_⟩
  · exact fun value denoted => readRules_eq_ok_iff
  · exact fun members mapping denotes => denotes.fields_of_object
  · exact readsOnly_rule
  · exact readsOnly_action
  · exact readsOnly_record
  · exact readsOnly_execution

end Configuration

open AggregateRules.Configuration

namespace Sample

def totals : List (String × Expression) :=
  [("total", ⟨"sum"⟩), ("id", ⟨"id"⟩)]

/-- A rule that always applies, with what it needs. -/
def plainMembers : List (String × Json) :=
  [("type", .string "always"),
    ("then", .object
      [("recordEvent", .object
        [("eventName", .string "ORDER_PLACED"),
          ("mapping", .object (fieldMembers totals))])])]

/-- The members `plainMembers` among others that are not read, though some of
them would be ill-formed in a condition rule. -/
def decoratedMembers : List (String × Json) :=
  [("if", .bool true), ("ifNot", .null), ("stop", .string "never")] ++
    plainMembers ++ [("comment", .array [])]

theorem decorated_rules_are_read :
    readRules order
        (.array [.object decoratedMembers,
          .object [("type", .string "condition"), ("if", .null),
            ("ifNot", .string "paid"),
            ("then", .object
              [("executeRules", .object [("rules", .null)])])]]) =
        .ok [.always (.recordEvent "ORDER_PLACED" (.ofFields totals)),
          .whenFalse ⟨"paid"⟩ (.executeRules [])] ∧
      ∃ fields, Mapping.ofFields totals = .fields fields ∧
        fieldMembers fields.entries = fieldMembers totals := by
  have follows := readRules_follows_grammar order
  have plain : DenotesRule (.object plainMembers) (.always _) :=
    .always rfl rfl (.recordEvent rfl (.record rfl rfl .fields))
  have agree : AgreeOn ["type", "then"] plainMembers decoratedMembers := by
    intro name named
    simp only [List.mem_cons, List.not_mem_nil, or_false] at named
    rcases named with rfl | rfl <;> rfl
  have decorated := follows.2.2.1 _ decoratedMembers _ plain agree
  constructor
  · refine (follows.1 _ _).mpr (.array (.cons decorated (.cons ?_ .nil)))
    exact .condition rfl (.negative (.inr rfl) rfl) rfl
      (.executeRules rfl rfl (.rules rfl .null)) (.vacant (.inl rfl))
  · exact follows.2.1 _ _ .fields (by decide)

end Sample

end AggregateRules
