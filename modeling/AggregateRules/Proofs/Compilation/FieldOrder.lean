import AggregateRules.Proofs.Compilation.Generation
import AggregateRules.Proofs.OrderedMap

/-!
# The order of fields

Rules that agree up to the order of the fields in their mappings compile alike.
All checks look at the same events in the same order, so the outcome is the same
error, or there are two blocks that differ in the order of the fields of records
and in nothing else, see
`Rule.ReorderedList.compile`. Such blocks produce the same events.
-/

namespace AggregateRules

inductive Payload.Reordered : Payload → Payload → Prop where
  | whole : Payload.Reordered (.whole value) (.whole value)
  | record :
      List.Perm left right →
      Payload.Reordered (.record left) (.record right)

mutual

/-- Statements that agree up to the order of the fields in each record. -/
inductive Statement.Reordered : Statement → Statement → Prop where
  | declareVariables :
      Statement.Reordered (.declareVariables bindings)
        (.declareVariables bindings)
  | branch :
      Block.Reordered left right →
      Statement.Reordered (.branch condition left) (.branch condition right)
  | scope :
      Block.Reordered left right →
      Statement.Reordered (.scope left) (.scope right)
  | produce :
      Payload.Reordered left right →
      Statement.Reordered (.produce service event left)
        (.produce service event right)
  | finish : Statement.Reordered .finish .finish
  | separator : Statement.Reordered .separator .separator

inductive Block.Reordered : List Statement → List Statement → Prop where
  | nil : Block.Reordered [] []
  | cons :
      Statement.Reordered first second →
      Block.Reordered left right →
      Block.Reordered (first :: left) (second :: right)

end

mutual

theorem Statement.Reordered.producedEvents_eq {left right : Statement}
    (reordered : Statement.Reordered left right) :
    left.producedEvents = right.producedEvents := by
  cases reordered with
  | branch bodies => exact bodies.producedEvents_eq
  | scope bodies => exact bodies.producedEvents_eq
  | declareVariables | produce | finish | separator => rfl

theorem Block.Reordered.producedEvents_eq {left right : List Statement}
    (reordered : Block.Reordered left right) :
    Block.producedEvents left = Block.producedEvents right := by
  cases reordered with
  | nil => rfl
  | cons first others =>
      rw [Block.producedEvents, Block.producedEvents, first.producedEvents_eq,
        others.producedEvents_eq]

end

theorem Block.Reordered.separated {left right : List Statement}
    (reordered : Block.Reordered left right) :
    Block.Reordered (Compilation.separated left)
      (Compilation.separated right) := by
  cases reordered with
  | nil => exact .nil
  | cons first others =>
      cases others with
      | nil => exact .cons first .nil
      | cons second rest =>
          exact .cons first (.cons .separator
            (Block.Reordered.separated (.cons second rest)))

mutual

/-- Rules that agree up to the order of the fields in each mapping. -/
inductive Rule.Reordered : Rule → Rule → Prop where
  | always :
      Action.Reordered left right →
      Rule.Reordered (.always left) (.always right)
  | condition :
      Action.Reordered left right →
      Rule.Reordered (.condition given left stops)
        (.condition given right stops)

inductive Action.Reordered : Action → Action → Prop where
  | recordEvent :
      Mapping.same left right = true →
      Action.Reordered (.recordEvent event left) (.recordEvent event right)
  | executeRules :
      Rule.ReorderedList left right →
      Action.Reordered (.executeRules left) (.executeRules right)

inductive Rule.ReorderedList : List Rule → List Rule → Prop where
  | nil : Rule.ReorderedList [] []
  | cons :
      Rule.Reordered first second →
      Rule.ReorderedList left right →
      Rule.ReorderedList (first :: left) (second :: right)

end

mutual

theorem Rule.reordered_of_same {left right : Rule}
    (same : left.same right = true) : Rule.Reordered left right := by
  cases left with
  | always acted =>
      cases right with
      | always other => exact .always (Action.reordered_of_same same)
      | condition => cases same
  | condition given acted stops =>
      cases right with
      | always other => cases same
      | condition otherGiven other otherStops =>
          simp only [Rule.same, Bool.and_eq_true, beq_iff_eq] at same
          obtain ⟨⟨rfl, sameAction⟩, rfl⟩ := same
          exact .condition (Action.reordered_of_same sameAction)

theorem Action.reordered_of_same {left right : Action}
    (same : left.same right = true) : Action.Reordered left right := by
  cases left with
  | recordEvent event mapping =>
      cases right with
      | recordEvent other otherMapping =>
          simp only [Action.same, Bool.and_eq_true, beq_iff_eq] at same
          obtain ⟨rfl, sameMapping⟩ := same
          exact .recordEvent sameMapping
      | executeRules => cases same
  | executeRules rules =>
      cases right with
      | recordEvent => cases same
      | executeRules others =>
          exact .executeRules (Rule.reorderedList_of_same same)

theorem Rule.reorderedList_of_same {left right : List Rule}
    (same : Rule.sameList left right = true) :
    Rule.ReorderedList left right := by
  cases left with
  | nil =>
      cases right with
      | nil => exact .nil
      | cons => cases same
  | cons rule rest =>
      cases right with
      | nil => cases same
      | cons other others =>
          rw [Rule.sameList, Bool.and_eq_true] at same
          exact .cons (Rule.reordered_of_same same.1)
            (Rule.reorderedList_of_same same.2)

end

mutual

theorem Rule.Reordered.recordedEvents_eq {left right : Rule}
    (reordered : Rule.Reordered left right) :
    left.recordedEvents = right.recordedEvents := by
  cases reordered with
  | always acted => exact acted.recordedEvents_eq
  | condition acted => exact acted.recordedEvents_eq

theorem Action.Reordered.recordedEvents_eq {left right : Action}
    (reordered : Action.Reordered left right) :
    left.recordedEvents = right.recordedEvents := by
  cases reordered with
  | recordEvent => rfl
  | executeRules executed => exact executed.recordedEventsOf_eq

theorem Rule.ReorderedList.recordedEventsOf_eq {left right : List Rule}
    (reordered : Rule.ReorderedList left right) :
    Rule.recordedEventsOf left = Rule.recordedEventsOf right := by
  cases reordered with
  | nil => rfl
  | cons first others =>
      rw [Rule.recordedEventsOf, Rule.recordedEventsOf,
        first.recordedEvents_eq, others.recordedEventsOf_eq]

end

theorem Mapping.reordered_payload {left right : Mapping}
    (same : left.same right = true) :
    Payload.Reordered (Compilation.payload left)
      (Compilation.payload right) := by
  cases left with
  | expression source =>
      cases right with
      | expression other =>
          rw [Mapping.same, beq_iff_eq] at same
          exact same ▸ .whole
      | fields others => cases same
  | fields sources =>
      cases right with
      | expression other => cases same
      | fields others =>
          exact .record (OrderedMap.sameEntries_iff_perm.mp same)

mutual

theorem Rule.Reordered.generated {left right : Rule}
    (reordered : Rule.Reordered left right) (service : String) :
    Statement.Reordered (left.generated service) (right.generated service) := by
  cases reordered with
  | always acted => exact acted.generated service
  | @condition _ _ _ stops acted =>
      have statement := acted.generated service
      cases stops with
      | false => exact .branch (.cons statement .nil)
      | true => exact .branch (.cons statement (.cons .finish .nil))

theorem Action.Reordered.generated {left right : Action}
    (reordered : Action.Reordered left right) (service : String) :
    Statement.Reordered (left.generated service) (right.generated service) := by
  cases reordered with
  | recordEvent same => exact .produce (Mapping.reordered_payload same)
  | executeRules executed =>
      exact .scope (executed.generatedList service).separated

theorem Rule.ReorderedList.generatedList {left right : List Rule}
    (reordered : Rule.ReorderedList left right) (service : String) :
    Block.Reordered (Rule.generatedList service left)
      (Rule.generatedList service right) := by
  cases reordered with
  | nil => exact .nil
  | cons first others =>
      exact .cons (first.generated service) (others.generatedList service)

end

/-- Rules that agree up to the order of fields compile to the same error, or to
blocks that agree up to the order of fields. -/
theorem Rule.ReorderedList.compile {left right : List Rule}
    (reordered : Rule.ReorderedList left right) (node : Node) (model : Model)
    (declared : List Variable) :
    (∃ error, AggregateRules.compile node model left declared = .error error ∧
        AggregateRules.compile node model right declared = .error error) ∨
      ∃ leftBlock rightBlock,
        AggregateRules.compile node model left declared = .ok leftBlock ∧
          AggregateRules.compile node model right declared = .ok rightBlock ∧
          Block.Reordered leftBlock rightBlock := by
  have sameEvents := reordered.recordedEventsOf_eq
  have code := reordered.generatedList (model.serviceClass node)
  cases reordered with
  | nil => exact .inr ⟨[], [], rfl, rfl, .nil⟩
  | cons first others =>
      rw [compile_of_ne_nil (List.cons_ne_nil _ _),
        compile_of_ne_nil (List.cons_ne_nil _ _), sameEvents]
      cases Compilation.checkVariables node [] declared with
      | error error => exact .inl ⟨error, rfl, rfl⟩
      | ok namesPass =>
          cases forM (Rule.recordedEventsOf _)
            (Compilation.checkEvent node model) with
          | error error => exact .inl ⟨error, rfl, rfl⟩
          | ok eventsPass =>
              exact .inr ⟨_, _, rfl, rfl, .cons .declareVariables
                (.cons .separator code.separated)⟩

end AggregateRules
