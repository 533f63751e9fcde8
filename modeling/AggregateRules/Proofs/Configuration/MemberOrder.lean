import AggregateRules.Proofs.Compilation.FieldOrder
import AggregateRules.Proofs.Compilation.Spelling
import AggregateRules.Proofs.Configuration.ReadBack
import AggregateRules.Proofs.Record.Loaded
import AggregateRules.Proofs.Record.Matching

/-!
# The order of members

Configurations that agree up to the order of members compile alike, though they
are read in the order of their members and may show different faults first: all
faults that can come first are of one kind. What can be read is read as rules
that agree up to the order of fields, and as the same variables, see
`compile_of_same`.
-/

namespace AggregateRules

/-- Two outcomes that are alike: related values, or errors of one kind. -/
inductive Alike (related : α → β → Prop) :
    Except CompileError α → Except CompileError β → Prop where
  | ok : related left right → Alike related (.ok left) (.ok right)
  | error :
      CompileError.SameKind left right →
      Alike related (.error left) (.error right)

theorem Alike.bind {first : Except CompileError α}
    {second : Except CompileError β} {firstNext : α → Except CompileError γ}
    {secondNext : β → Except CompileError δ} {related : α → β → Prop}
    {relatedNext : γ → δ → Prop} (alike : Alike related first second)
    (nextAlike : ∀ left right, related left right →
      Alike relatedNext (firstNext left) (secondNext right)) :
    Alike relatedNext (first >>= firstNext) (second >>= secondNext) := by
  cases alike with
  | ok values => exact nextAlike _ _ values
  | error sameKind => exact .error sameKind

theorem Alike.map {first : Except CompileError α}
    {second : Except CompileError β} {onFirst : α → γ} {onSecond : β → δ}
    {related : α → β → Prop} {relatedNext : γ → δ → Prop}
    (alike : Alike related first second)
    (relates : ∀ left right, related left right →
      relatedNext (onFirst left) (onSecond right)) :
    Alike relatedNext (first.map onFirst) (second.map onSecond) := by
  cases alike with
  | ok values => exact .ok (relates _ _ values)
  | error sameKind => exact .error sameKind

namespace Configuration

open Json

/-- Forms of an action with matching parts. -/
inductive MatchForms : ActionForm → ActionForm → Prop where
  | record :
      Matches value other →
      MatchForms (.record value) (.record other)
  | execute :
      Matches value other →
      MatchForms (.execute value) (.execute other)

section

variable (node : Node) {left right : List (String × Json)}

theorem readKind_alike (members : MatchMembers left right) :
    Alike Eq (readKind node left) (readKind node right) := by
  unfold readKind
  rcases members.lookup "type" with
    ⟨absent, alsoAbsent⟩ | ⟨value, other, found, alsoFound, matching⟩
  · rw [absent, alsoAbsent]
    exact .error rfl
  · rw [found, alsoFound]
    cases matching.parts with
    | @string text =>
        by_cases always : text = "always"
        · simp only [if_pos always]
          exact .ok rfl
        · by_cases condition : text = "condition"
          · simp only [if_neg always, if_pos condition]
            exact .ok rfl
          · simp only [if_neg always, if_neg condition]
            exact .error rfl
    | null | bool | number | array | object => exact .error rfl

theorem readExpression?_alike (members : MatchMembers left right)
    (name : String) :
    Alike Eq (readExpression? node left name)
      (readExpression? node right name) := by
  unfold readExpression?
  rcases members.lookup name with
    ⟨absent, alsoAbsent⟩ | ⟨value, other, found, alsoFound, matching⟩
  · rw [absent, alsoAbsent]
    exact .ok rfl
  · rw [found, alsoFound]
    cases matching.parts with
    | null | string => exact .ok rfl
    | bool | number | array | object => exact .error rfl

theorem readCondition_alike (members : MatchMembers left right) :
    Alike Eq (readCondition node left) (readCondition node right) := by
  unfold readCondition
  refine (readExpression?_alike node members "if").bind ?_
  rintro positive _ rfl
  refine (readExpression?_alike node members "ifNot").bind ?_
  rintro negative _ rfl
  cases positive with
  | none =>
      cases negative with
      | none => exact .error rfl
      | some test => exact .ok rfl
  | some test =>
      cases negative with
      | none => exact .ok rfl
      | some other => exact .error rfl

theorem readStop_alike (members : MatchMembers left right) :
    Alike Eq (readStop node left) (readStop node right) := by
  unfold readStop
  rcases members.lookup "stop" with
    ⟨absent, alsoAbsent⟩ | ⟨value, other, found, alsoFound, matching⟩
  · rw [absent, alsoAbsent]
    exact .ok rfl
  · rw [found, alsoFound]
    cases matching.parts with
    | null | bool => exact .ok rfl
    | number | string | array | object => exact .error rfl

/-- Fields are read, or some member is no expression. -/
theorem readFields_cases (members : List (String × Json)) :
    (∃ fields, members = fieldMembers fields ∧
        readFields node members = .ok fields) ∨
      ∃ name value, (name, value) ∈ members ∧
        (∀ source, value ≠ .string source) ∧
        ∃ reason, readFields node members = .error (malformed node reason) := by
  induction members with
  | nil => exact .inl ⟨[], rfl, rfl⟩
  | cons member rest ih =>
      obtain ⟨name, value⟩ := member
      cases value with
      | string source =>
          rcases ih with ⟨fields, isRest, read⟩ |
            ⟨other, bad, member, noString, reason, failed⟩
          · refine .inl ⟨(name, ⟨source⟩) :: fields, ?_, ?_⟩
            · rw [isRest]
              rfl
            · rw [readFields, read]
              rfl
          · refine .inr ⟨other, bad, List.mem_cons_of_mem _ member, noString,
              reason, ?_⟩
            rw [readFields, failed]
            rfl
      | null | bool | number | array | object =>
          exact .inr ⟨name, _, List.mem_cons_self, by simp, _, rfl⟩

theorem mem_fieldMembers {fields : List (String × Expression)} {name : String}
    {value : Json} (member : (name, value) ∈ fieldMembers fields) :
    ∃ source, value = .string source := by
  obtain ⟨field, -, equal⟩ := List.mem_map.mp member
  cases equal
  exact ⟨_, rfl⟩

theorem map_fst_fieldMembers (fields : List (String × Expression)) :
    (fieldMembers fields).map Prod.fst = fields.map Prod.fst := by
  simp [fieldMembers]

theorem perm_of_fieldMembers {fields others : List (String × Expression)}
    (permuted : (fieldMembers fields).Perm (fieldMembers others)) :
    fields.Perm others := by
  refine (List.map_perm_map_iff ?_).mp permuted
  rintro ⟨name, ⟨source⟩⟩ ⟨other, ⟨otherSource⟩⟩ equal
  cases equal
  rfl

/-- Fields in whatever order give the same mapping. -/
theorem same_ofFields_of_perm {fields others : List (String × Expression)}
    (nodup : (fields.map Prod.fst).Nodup) (permuted : fields.Perm others) :
    (Mapping.ofFields fields).same (.ofFields others) = true := by
  have otherNodup := (permuted.map Prod.fst).nodup_iff.mp nodup
  apply OrderedMap.sameEntries_iff_perm.mpr
  rw [OrderedMap.entries_ofList nodup, OrderedMap.entries_ofList otherNodup]
  exact permuted

/-- Objects of strings match only if they have the same members. -/
theorem fieldMembers_perm {fields : List (String × Expression)}
    (matching : MatchMembers (fieldMembers fields) right) :
    (fieldMembers fields).Perm right := by
  apply perm_of_nodup_of_subset (List.Nodup.of_map _ matching.nodup)
    matching.length
  rintro ⟨name, value⟩ member
  obtain ⟨source, rfl⟩ := mem_fieldMembers member
  obtain ⟨other, found, same⟩ :=
    hasMembers_iff.mp matching.held name _ member
  cases (Matches.mk rfl same).parts
  exact mem_of_lookup found

theorem readFields_alike (members : MatchMembers left right) :
    Alike (fun fields others =>
        (Mapping.ofFields fields).same (.ofFields others) = true)
      (readFields node left) (readFields node right) := by
  rcases readFields_cases node left with ⟨fields, rfl, read⟩ |
    ⟨name, value, member, noString, reason, failed⟩
  · have permuted := fieldMembers_perm members
    rcases readFields_cases node right with ⟨others, rfl, otherRead⟩ |
      ⟨name, value, member, noString, -⟩
    · rw [read, otherRead]
      have nodup := members.nodup
      rw [map_fst_fieldMembers] at nodup
      exact .ok (same_ofFields_of_perm nodup (perm_of_fieldMembers permuted))
    · obtain ⟨source, isString⟩ :=
        mem_fieldMembers (permuted.mem_iff.mpr member)
      exact (noString source isString).elim
  -- The bad member of the one object matches some member of the other, which
  -- need not be the first bad one there.
  · rcases readFields_cases node right with ⟨others, rfl, -⟩ |
      ⟨_, _, _, _, otherReason, otherFailed⟩
    · obtain ⟨other, found, same⟩ :=
        hasMembers_iff.mp members.held name value member
      have distinct := distinct_of_mem members.distinct member
      obtain ⟨source, rfl⟩ := mem_fieldMembers (mem_of_lookup found)
      cases (Matches.mk distinct same).parts
      exact (noString source rfl).elim
    · rw [failed, otherFailed]
      exact .error rfl

theorem readMapping_alike {data others : Option Json}
    (matching : MatchFound data others) :
    Alike (fun mapping other => Mapping.same mapping other = true)
      (readMapping node data) (readMapping node others) := by
  rcases matching with ⟨rfl, rfl⟩ | ⟨value, other, rfl, rfl, matching⟩
  · exact .error rfl
  · cases matching.parts with
    | string => exact .ok (by simp [Mapping.same])
    | object members =>
        exact (readFields_alike node members).bind fun fields others same =>
          .ok same
    | null | bool | number | array => exact .error rfl

theorem readRecord_alike {record other : Json}
    (matching : Matches record other) :
    Alike Action.Reordered (readRecord node record)
      (readRecord node other) := by
  unfold readRecord
  rcases matching.get? "eventName" with
    ⟨absent, alsoAbsent⟩ | ⟨value, otherValue, found, alsoFound, named⟩
  · rw [absent, alsoAbsent]
    exact .error rfl
  · rw [found, alsoFound]
    cases named.parts with
    | string =>
        exact (readMapping_alike node (matching.get? "mapping")).bind
          fun mapping other same => .ok (.recordEvent same)
    | null | bool | number | array | object => exact .error rfl

theorem actionForm_alike (members : MatchMembers left right) :
    Alike MatchForms (actionForm node left) (actionForm node right) := by
  unfold actionForm
  rcases members.lookup "then" with
    ⟨absent, alsoAbsent⟩ | ⟨value, other, found, alsoFound, matching⟩
  · rw [absent, alsoAbsent]
    exact .error rfl
  · rw [found, alsoFound]
    cases matching.parts with
    | object parts =>
        simp only
        rcases parts.lookup "recordEvent" with
          ⟨absent, alsoAbsent⟩ | ⟨record, other, isRecord, isOther, records⟩
        · rw [absent, alsoAbsent]
          simp only
          rcases parts.lookup "executeRules" with ⟨absent, alsoAbsent⟩ |
            ⟨executed, other, isExecuted, isOther, executions⟩
          · rw [absent, alsoAbsent]
            exact .error rfl
          · rw [isExecuted, isOther]
            simp only
            rcases executions.get? "rules" with ⟨absent, alsoAbsent⟩ |
              ⟨rules, other, isRules, isOther, matching⟩
            · rw [absent, alsoAbsent]
              exact .error rfl
            · rw [isRules, isOther]
              exact .ok (.execute matching)
        · rw [isRecord, isOther]
          exact .ok (.record records)
    | null | bool | number | string | array => exact .error rfl

theorem readAction_error {members : List (String × Json)}
    {error : CompileError} (form : actionForm node members = .error error) :
    readAction node members = .error error := by
  rw [readAction]
  split
  · next other isError =>
      cases form.symm.trans isError
      rfl
  · next record isRecord => cases form.symm.trans isRecord
  · next value isExecute => cases form.symm.trans isExecute

end

-- The recursion is on the value on the left; the one on the right is taken
-- apart along with it.
mutual

theorem readRules_alike (node : Node) {left right : Json}
    (matching : Matches left right) :
    Alike Rule.ReorderedList (readRules node left) (readRules node right) := by
  rw [readRules.eq_def, readRules.eq_def]
  cases matching.parts with
  | null => exact .ok .nil
  | array items => exact readRuleItems_alike node items
  | bool | number | string | object => exact .error rfl
termination_by sizeOf left

theorem readRuleItems_alike (node : Node) {left right : List Json}
    (items : List.Forall₂ Matches left right) :
    Alike Rule.ReorderedList (readRuleItems node left)
      (readRuleItems node right) := by
  cases items with
  | nil =>
      rw [readRuleItems]
      exact .ok .nil
  | cons first others =>
      rw [readRuleItems, readRuleItems]
      refine (readRule_alike node first).bind ?_
      intro rule other reordered
      refine (readRuleItems_alike node others).bind ?_
      exact fun denoted others follow => .ok (.cons reordered follow)
termination_by sizeOf left

theorem readRule_alike (node : Node) {left right : Json}
    (matching : Matches left right) :
    Alike Rule.Reordered (readRule node left) (readRule node right) := by
  rw [readRule.eq_def, readRule.eq_def]
  cases matching.parts with
  | object members =>
      refine (readKind_alike node members).bind ?_
      rintro kind _ rfl
      cases kind with
      | always =>
          exact (readAction_alike node members).bind
            fun action other acted => .ok (.always acted)
      | condition =>
          refine (readCondition_alike node members).bind ?_
          rintro given _ rfl
          refine (readAction_alike node members).bind ?_
          intro action other acted
          refine (readStop_alike node members).bind ?_
          rintro stops _ rfl
          exact .ok (.condition acted)
  | null | bool | number | string | array => exact .error rfl
termination_by sizeOf left

theorem readAction_alike (node : Node) {left right : List (String × Json)}
    (members : MatchMembers left right) :
    Alike Action.Reordered (readAction node left) (readAction node right) := by
  have forms := actionForm_alike node members
  generalize leftForm : actionForm node left = form at forms
  generalize rightForm : actionForm node right = other at forms
  cases forms with
  | error sameKind =>
      rw [readAction_error node leftForm, readAction_error node rightForm]
      exact .error sameKind
  | ok matching =>
      cases matching with
      | record records =>
          rw [readAction_record node leftForm,
            readAction_record node rightForm]
          exact readRecord_alike node records
      | execute rules =>
          have smaller := sizeOf_of_actionForm leftForm
          rw [readAction_execute node leftForm,
            readAction_execute node rightForm]
          exact (readRules_alike node rules).map
            fun denoted others reordered => .executeRules reordered
termination_by sizeOf left

end

theorem readVariables_alike (node : Node) {left right : Json}
    (matching : Matches left right) :
    Alike Eq (readVariables node left) (readVariables node right) := by
  cases matching.parts with
  | null => exact .ok rfl
  | @array items others itemsMatch =>
      have same := Variable.transfers_ofJson.mapM itemsMatch
      rw [readVariables, readVariables]
      cases left : items.mapM Variable.saved.ofJson with
      | error fault =>
          cases right : others.mapM Variable.saved.ofJson with
          | error other => exact .error rfl
          | ok declared => cases left.symm.trans ((same declared).mpr right)
      | ok declared =>
          rw [(same declared).mp left]
          exact .ok rfl
  | bool | number | string | object => exact .error rfl

theorem compile_alike {left right : Configuration}
    (same : left.same right = true) (distinct : left.distinct = true)
    (node : Node) (model : Model) :
    Alike Block.Reordered (compile node model left)
      (compile node model right) := by
  rw [Configuration.same, Bool.and_eq_true] at same
  rw [Configuration.distinct, Bool.and_eq_true] at distinct
  rw [compile_eq_bind, compile_eq_bind]
  refine (readRules_alike node ⟨distinct.1, same.1⟩).bind ?_
  intro denoted others reordered
  cases reordered with
  | nil => exact .ok .nil
  | cons first rest =>
      refine (readVariables_alike node ⟨distinct.2, same.2⟩).bind ?_
      rintro declared _ rfl
      have compiled :=
        (Rule.ReorderedList.cons first rest).compile node model declared
      rcases compiled with ⟨error, failed, otherFailed⟩ |
        ⟨leftBlock, rightBlock, compiled, otherCompiled, blocks⟩
      · rw [failed, otherFailed]
        exact .error rfl
      · rw [compiled, otherCompiled]
        exact .ok blocks

end Configuration

/-- What compares as equal compiles alike. Rules that agree up to the order of
fields compile to the same error, or to blocks that agree up to the order of
fields and produce the same events. Configurations that agree up to the order of
members compile to errors of one kind, or to such blocks. -/
theorem compile_of_same (node : Node) (model : Model) :
    (∀ {left right : List Rule}, Rule.sameList left right = true →
      ∀ declared,
        (∃ error, compile node model left declared = .error error ∧
            compile node model right declared = .error error) ∨
          ∃ leftBlock rightBlock,
            compile node model left declared = .ok leftBlock ∧
              compile node model right declared = .ok rightBlock ∧
              Block.Reordered leftBlock rightBlock ∧
              Block.producedEvents leftBlock =
                Block.producedEvents rightBlock) ∧
      ∀ {left right : Configuration}, left.same right = true →
        left.distinct = true →
        (∃ leftError rightError,
            Configuration.compile node model left = .error leftError ∧
              Configuration.compile node model right = .error rightError ∧
              leftError.SameKind rightError) ∨
          ∃ leftBlock rightBlock,
            Configuration.compile node model left = .ok leftBlock ∧
              Configuration.compile node model right = .ok rightBlock ∧
              Block.Reordered leftBlock rightBlock := by
  constructor
  · intro left right same declared
    have reordered := Rule.reorderedList_of_same same
    rcases reordered.compile node model declared with
      failed | ⟨leftBlock, rightBlock, compiled, otherCompiled, blocks⟩
    · exact .inl failed
    · exact .inr ⟨leftBlock, rightBlock, compiled, otherCompiled, blocks,
        blocks.producedEvents_eq⟩
  · intro left right same distinct
    have alike := Configuration.compile_alike same distinct node model
    generalize compiled : Configuration.compile node model left = outcome
      at alike
    generalize otherCompiled :
      Configuration.compile node model right = other at alike
    cases alike with
    | ok blocks => exact .inr ⟨_, _, rfl, rfl, blocks⟩
    | error sameKind => exact .inl ⟨_, _, rfl, rfl, sameKind⟩

mutual

/-- The value with the members of each object from behind. -/
def Json.reversed : Json → Json
  | .array items => .array (reversedItems items)
  | .object members => .object (reversedMembers members).reverse
  | .null => .null
  | .bool value => .bool value
  | .number value => .number value
  | .string text => .string text

def Json.reversedItems : List Json → List Json
  | [] => []
  | item :: rest => item.reversed :: reversedItems rest

def Json.reversedMembers : List (String × Json) → List (String × Json)
  | [] => []
  | (name, value) :: rest => (name, value.reversed) :: reversedMembers rest

end

namespace Sample

/-- The rules `Sample.rules` with the fields of their mapping from behind. -/
def reversedRules : List Rule :=
  [.whenTrue ⟨"open"⟩ (.executeRules
      [(Rule.whenFalse ⟨"paid"⟩
          (.recordEvent "Flagged" (.expression ⟨"reason"⟩))).stopping,
        .always (.recordEvent "orderPlaced" (.ofFields totals.reverse))]),
    .always (.recordEvent "ORDER_PLACED" (.expression ⟨"rest"⟩))]

def writtenConfiguration : Configuration :=
  .ofBehavior ⟨declared, rules⟩

def reversedConfiguration : Configuration :=
  ⟨writtenConfiguration.rules.reversed, writtenConfiguration.declared.reversed⟩

theorem reversed_orders_compile_alike :
    (∃ block, compile order orders reversedRules declared = .ok block ∧
        Block.Reordered (generatedBlock "Orders" rules declared) block) ∧
      ∃ block,
        Configuration.compile order orders reversedConfiguration = .ok block ∧
          Block.Reordered (generatedBlock "Orders" rules declared) block := by
  have sameRules : Rule.sameList rules reversedRules = true := by
    decide +kernel
  have same : writtenConfiguration.same reversedConfiguration = true := by
    decide +kernel
  have distinct : writtenConfiguration.distinct = true := by
    decide +kernel
  have compiled : Configuration.compile order orders writtenConfiguration =
      .ok (generatedBlock "Orders" rules declared) := by
    rw [writtenConfiguration, Configuration.compile_ofBehavior]
    exact compile_rules
  have alike := compile_of_same order orders
  constructor
  · rcases alike.1 sameRules declared with
      ⟨_, failed, _⟩ | ⟨_, block, leftCompiled, rightCompiled, reordered, _⟩
    · cases compile_rules.symm.trans failed
    · cases compile_rules.symm.trans leftCompiled
      exact ⟨block, rightCompiled, reordered⟩
  · rcases alike.2 same distinct with
      ⟨_, _, failed, _⟩ | ⟨_, block, leftCompiled, rightCompiled, reordered⟩
    · cases compiled.symm.trans failed
    · cases compiled.symm.trans leftCompiled
      exact ⟨block, rightCompiled, reordered⟩

end Sample

end AggregateRules
