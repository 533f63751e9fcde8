import Mathlib.Data.List.Forall2
import Mathlib.Tactic.Tauto
import AggregateRules.Proofs.Compilation.Recordable
import AggregateRules.Proofs.Compilation.Recovery

/-!
# Spelling does not matter

Compilation looks at the names of services and events only through the classes
that they refer to, and at the qualifier that an event must not have. So models
that know the same classes compile rules alike, in whatever spelling, order and
number their elements come, and also where the rules do not compile: the first
fault stays where it is and remains of one kind, see
`compile_alike_up_to_spelling`.
-/

namespace AggregateRules

open Compilation

/-- Two models that know the service and the events of a node, by labels of the
same classes. -/
structure Model.SameClasses (node : Node) (left right : Model) : Prop where
  service : ∃ leftService rightService,
    left.owningService node = .ok leftService ∧
      right.owningService node = .ok rightService ∧
      Label.sameClass leftService rightService = true
  targets : ∃ leftTargets rightTargets,
    left.outgoingTargets node .event = .ok leftTargets ∧
      right.outgoingTargets node .event = .ok rightTargets ∧
      ∀ name, name ∈ classNames leftTargets ↔ name ∈ classNames rightTargets

/-- Names of events that are both qualified or both not. -/
def EquallyQualified (left right : String) : Prop :=
  '.' ∈ left.toList ↔ '.' ∈ right.toList

/-- Names of one class that are both qualified or both not. -/
structure SameEvent (left right : String) : Prop where
  sameClass : Label.sameClass left right = true
  equallyQualified : EquallyQualified left right

/-- Errors of one kind. -/
def CompileError.SameKind (left right : CompileError) : Prop :=
  left.ctorIdx = right.ctorIdx

theorem Model.SameClasses.symm {node : Node} {left right : Model}
    (alike : Model.SameClasses node left right) :
    Model.SameClasses node right left := by
  obtain ⟨leftService, rightService, leftAsked, rightAsked, sameClass⟩ :=
    alike.service
  obtain ⟨leftTargets, rightTargets, leftKnown, rightKnown, sameNames⟩ :=
    alike.targets
  constructor
  · exact ⟨rightService, leftService, rightAsked, leftAsked,
      sameClass_iff.mpr (sameClass_iff.mp sameClass).symm⟩
  · exact ⟨rightTargets, leftTargets, rightKnown, leftKnown,
      fun name => (sameNames name).symm⟩

theorem SameEvent.symm {left right : String} (same : SameEvent left right) :
    SameEvent right left :=
  ⟨sameClass_iff.mpr (sameClass_iff.mp same.sameClass).symm,
    Iff.symm same.equallyQualified⟩

section

variable {node : Node} {leftModel rightModel : Model}

/-- An event that has a fault has one of the same kind in another spelling. -/
theorem EventFault.respelled {leftEvent rightEvent : String}
    {leftError : CompileError}
    (fault : EventFault node leftModel leftEvent leftError)
    (alike : Model.SameClasses node leftModel rightModel)
    (same : SameEvent leftEvent rightEvent) :
    ∃ rightError, EventFault node rightModel rightEvent rightError ∧
      leftError.SameKind rightError := by
  obtain ⟨leftService, rightService, leftAsked, rightAsked, sameService⟩ :=
    alike.service
  obtain ⟨leftTargets, rightTargets, leftKnown, rightKnown, sameNames⟩ :=
    alike.targets
  have serviceName := sameClass_iff.mp sameService
  have eventName := sameClass_iff.mp same.sameClass
  have bareRight (bare : '.' ∉ leftEvent.toList) : '.' ∉ rightEvent.toList :=
    fun dotted => bare (same.equallyQualified.mpr dotted)
  -- Of the events that one model has for the class, the other one has some.
  have foundRight {targets : List Node} {target : Node}
      (known : leftModel.outgoingTargets node .event = .ok targets)
      (found : targets.find? (fun target =>
        Label.sameClass target.name leftEvent) = some target) :
      ∃ other,
        rightTargets.find? (fun target =>
            Label.sameClass target.name rightEvent) = some other ∧
          Label.className other.name = Label.className target.name := by
    cases leftKnown.symm.trans known
    obtain ⟨targetName, member⟩ := className_of_find? found
    rw [eventName] at targetName member
    obtain ⟨other, otherFound, otherName⟩ :=
      exists_find?_of_mem_classNames ((sameNames _).mp member)
    exact ⟨other, otherFound, otherName.trans targetName.symm⟩
  cases fault with
  | unknownService asked => cases leftAsked.symm.trans asked
  | qualified _ dotted =>
      exact ⟨_, .qualified rightAsked (same.equallyQualified.mp dotted), rfl⟩
  | unknownTargets _ _ known => cases leftKnown.symm.trans known
  | notConnected _ bare known apart =>
      refine ⟨_, .notConnected rightAsked (bareRight bare) rightKnown ?_, rfl⟩
      cases leftKnown.symm.trans known
      intro target member
      rw [Bool.eq_false_iff]
      intro sameClass
      have inRight := mem_classNames_iff.mpr ⟨target, member, sameClass⟩
      have inLeft := (sameNames _).mpr inRight
      rw [← eventName] at inLeft
      obtain ⟨other, otherMember, connected⟩ := mem_classNames_iff.mp inLeft
      exact absurd connected (Bool.eq_false_iff.mp (apart other otherMember))
  | unusableService asked bare known found noLetter =>
      cases leftAsked.symm.trans asked
      obtain ⟨other, otherFound, _⟩ := foundRight known found
      rw [serviceName] at noLetter
      exact ⟨_, .unusableService rightAsked (bareRight bare) rightKnown
        otherFound noLetter, rfl⟩
  | unusableTarget asked bare known found letter noLetter =>
      cases leftAsked.symm.trans asked
      obtain ⟨other, otherFound, otherName⟩ := foundRight known found
      rw [serviceName] at letter
      rw [← otherName] at noLetter
      exact ⟨_, .unusableTarget rightAsked (bareRight bare) rightKnown
        otherFound letter noLetter, rfl⟩

/-- The first of some events with a fault, its place among them, and its error.
-/
inductive FirstEventFaultAt (node : Node) (model : Model) :
    List String → Nat → CompileError → Prop where
  | here :
      EventFault node model event error →
      FirstEventFaultAt node model (event :: rest) 0 error
  | later :
      (∀ other, ¬ EventFault node model event other) →
      FirstEventFaultAt node model rest place error →
      FirstEventFaultAt node model (event :: rest) (place + 1) error

theorem FirstEventFaultAt.firstEventFault {model : Model}
    {events : List String} {place : Nat} {error : CompileError}
    (first : FirstEventFaultAt node model events place error) :
    FirstEventFault node model events error := by
  induction first with
  | here fault => exact ⟨[], _, _, rfl, by simp, fault⟩
  | later sound _ ih =>
      obtain ⟨before, event, after, split, passed, fault⟩ := ih
      refine ⟨_ :: before, event, after, by rw [split]; rfl, ?_, fault⟩
      exact List.forall_mem_cons.mpr ⟨sound, passed⟩

theorem FirstEventFault.exists_place {model : Model} {events : List String}
    {error : CompileError}
    (first : FirstEventFault node model events error) :
    ∃ place, FirstEventFaultAt node model events place error := by
  obtain ⟨before, event, after, rfl, passed, fault⟩ := first
  refine ⟨before.length, ?_⟩
  induction before with
  | nil => exact .here fault
  | cons earlier rest ih =>
      obtain ⟨sound, others⟩ := List.forall_mem_cons.mp passed
      exact .later sound (ih others)

theorem FirstEventFaultAt.respelled
    (alike : Model.SameClasses node leftModel rightModel)
    {leftEvents rightEvents : List String}
    (same : List.Forall₂ SameEvent leftEvents rightEvents)
    {place : Nat} {leftError : CompileError}
    (first : FirstEventFaultAt node leftModel leftEvents place leftError) :
    ∃ rightError,
      FirstEventFaultAt node rightModel rightEvents place rightError ∧
        leftError.SameKind rightError := by
  induction same generalizing place with
  | nil => cases first
  | cons sameFirst _ ih =>
      cases first with
      | here fault =>
          obtain ⟨rightError, rightFault, sameKind⟩ :=
            fault.respelled alike sameFirst
          exact ⟨rightError, .here rightFault, sameKind⟩
      | later sound rest =>
          obtain ⟨rightError, rightFirst, sameKind⟩ := ih rest
          refine ⟨rightError, .later ?_ rightFirst, sameKind⟩
          intro other rightFault
          obtain ⟨leftOther, leftFault, _⟩ :=
            rightFault.respelled alike.symm sameFirst.symm
          exact sound leftOther leftFault

end

mutual

theorem Rule.Respelled.recordedEvents {left right : Rule}
    (respelled : Rule.Respelled left right) :
    List.Forall₂ (fun left right => Label.sameClass left right = true)
      left.recordedEvents right.recordedEvents := by
  cases respelled with
  | always acted => exact acted.recordedEvents
  | condition acted => exact acted.recordedEvents

theorem Action.Respelled.recordedEvents {left right : Action}
    (respelled : Action.Respelled left right) :
    List.Forall₂ (fun left right => Label.sameClass left right = true)
      left.recordedEvents right.recordedEvents := by
  cases respelled with
  | recordEvent sameClass => exact .cons sameClass .nil
  | executeRules executed => exact executed.recordedEventsOf

theorem Rule.RespelledList.recordedEventsOf {left right : List Rule}
    (respelled : Rule.RespelledList left right) :
    List.Forall₂ (fun left right => Label.sameClass left right = true)
      (Rule.recordedEventsOf left) (Rule.recordedEventsOf right) := by
  cases respelled with
  | nil => exact .nil
  | cons first others =>
      exact List.rel_append first.recordedEvents others.recordedEventsOf

end

mutual

theorem Rule.Respelled.generated {left right : Rule}
    (respelled : Rule.Respelled left right) (service : String) :
    left.generated service = right.generated service := by
  cases respelled with
  | always acted => exact acted.generated service
  | condition acted =>
      rw [Rule.generated, Rule.generated, acted.generated service]

theorem Action.Respelled.generated {left right : Action}
    (respelled : Action.Respelled left right) (service : String) :
    left.generated service = right.generated service := by
  cases respelled with
  | recordEvent sameClass =>
      rw [Action.generated, Action.generated, sameClass_iff.mp sameClass]
  | executeRules executed =>
      rw [Action.generated, Action.generated, executed.generatedList service]

theorem Rule.RespelledList.generatedList {left right : List Rule}
    (respelled : Rule.RespelledList left right) (service : String) :
    Rule.generatedList service left = Rule.generatedList service right := by
  cases respelled with
  | nil => rfl
  | cons first others =>
      rw [Rule.generatedList, Rule.generatedList, first.generated service,
        others.generatedList service]

end

theorem sameEvents_of_respelled {left right : List String}
    (respelled : List.Forall₂ (fun left right =>
      Label.sameClass left right = true) left right)
    (qualified : List.Forall₂ EquallyQualified left right) :
    List.Forall₂ SameEvent left right := by
  induction respelled with
  | nil => exact .nil
  | cons sameClass _ ih =>
      cases qualified with
      | cons equally others => exact .cons ⟨sameClass, equally⟩ (ih others)

theorem sameEvents_symm {left right : List String}
    (same : List.Forall₂ SameEvent left right) :
    List.Forall₂ SameEvent right left :=
  List.Forall₂.flip (same.imp fun _ _ sameEvent => sameEvent.symm)

section

variable {node : Node} {leftModel rightModel : Model}

theorem Model.SameClasses.serviceClass_eq
    (alike : Model.SameClasses node leftModel rightModel) :
    leftModel.serviceClass node = rightModel.serviceClass node := by
  obtain ⟨_, _, leftAsked, rightAsked, sameClass⟩ := alike.service
  simp only [Model.serviceClass, leftAsked, rightAsked]
  exact sameClass_iff.mp sameClass

/-- Events that pass their checks pass them in another spelling, too. -/
theorem forM_checkEvent_respelled
    (alike : Model.SameClasses node leftModel rightModel)
    {leftEvents rightEvents : List String}
    (same : List.Forall₂ SameEvent leftEvents rightEvents)
    (passed : forM leftEvents (checkEvent node leftModel) = .ok ()) :
    forM rightEvents (checkEvent node rightModel) = .ok () := by
  cases checked : forM rightEvents (checkEvent node rightModel) with
  | ok value => rfl
  | error error =>
      obtain ⟨place, first⟩ :=
        (forM_checkEvent_eq_error_iff.mp checked).exists_place
      obtain ⟨leftError, leftFirst, _⟩ :=
        first.respelled alike.symm (sameEvents_symm same)
      have failed :=
        forM_checkEvent_eq_error_iff.mpr leftFirst.firstEventFault
      cases passed.symm.trans failed

/-- Rules and models that differ in the spelling of services and events compile
alike: to one block, or to errors of one kind that come from the same variable
or from the same recorded event. -/
theorem compile_alike_up_to_spelling
    (alike : Model.SameClasses node leftModel rightModel)
    {left right : List Rule} (respelled : Rule.RespelledList left right)
    (qualified : List.Forall₂ EquallyQualified (Rule.recordedEventsOf left)
      (Rule.recordedEventsOf right))
    (declared : List Variable) :
    (∃ block, compile node leftModel left declared = .ok block ∧
        compile node rightModel right declared = .ok block) ∨
      (∃ error, FirstVariableFault node declared error ∧
        compile node leftModel left declared = .error error ∧
        compile node rightModel right declared = .error error) ∨
      ∃ place leftError rightError,
        FirstEventFaultAt node leftModel (Rule.recordedEventsOf left) place
            leftError ∧
          FirstEventFaultAt node rightModel (Rule.recordedEventsOf right) place
            rightError ∧
          compile node leftModel left declared = .error leftError ∧
          compile node rightModel right declared = .error rightError ∧
          leftError.SameKind rightError := by
  have sameEvents :=
    sameEvents_of_respelled respelled.recordedEventsOf qualified
  cases respelled with
  | nil => exact .inl ⟨[], rfl, rfl⟩
  | @cons leftRule rightRule leftRest rightRest first others =>
      have leftNonempty : leftRule :: leftRest ≠ [] := List.cons_ne_nil _ _
      have rightNonempty : rightRule :: rightRest ≠ [] := List.cons_ne_nil _ _
      by_cases proper : ProperNames declared
      · cases checked : forM (Rule.recordedEventsOf (leftRule :: leftRest))
            (checkEvent node leftModel) with
        | ok value =>
            left
            have namesPass : checkVariables node [] declared = .ok () :=
              checkVariables_eq_ok_iff.mpr ⟨proper, by simp⟩
            have rightChecked :=
              forM_checkEvent_respelled alike sameEvents checked
            have sameCode : Rule.generatedList (leftModel.serviceClass node)
                  (leftRule :: leftRest) =
                Rule.generatedList (rightModel.serviceClass node)
                  (rightRule :: rightRest) := by
              rw [alike.serviceClass_eq]
              exact Rule.RespelledList.generatedList (.cons first others) _
            refine ⟨generatedBlock (leftModel.serviceClass node)
              (leftRule :: leftRest) declared, ?_, ?_⟩
            · exact (compile_eq_ok_iff leftNonempty).mpr
                ⟨namesPass, forM_eq_ok_iff.mp checked, rfl⟩
            · refine (compile_eq_ok_iff rightNonempty).mpr
                ⟨namesPass, forM_eq_ok_iff.mp rightChecked, ?_⟩
              rw [generatedBlock, generatedBlock, sameCode]
        | error leftError =>
            right
            right
            obtain ⟨place, leftFirst⟩ :=
              (forM_checkEvent_eq_error_iff.mp checked).exists_place
            obtain ⟨rightError, rightFirst, sameKind⟩ :=
              leftFirst.respelled alike sameEvents
            exact ⟨place, leftError, rightError, leftFirst, rightFirst,
              compile_of_firstEventFault leftNonempty proper
                leftFirst.firstEventFault,
              compile_of_firstEventFault rightNonempty proper
                rightFirst.firstEventFault,
              sameKind⟩
      · right
        left
        obtain ⟨error, fault⟩ :
            ∃ error, FirstVariableFault node declared error :=
          exists_firstVariableFault_iff.mpr proper
        exact ⟨error, fault, compile_of_firstVariableFault leftNonempty fault,
          compile_of_firstVariableFault rightNonempty fault⟩

end

/-- The model `Sample.orders` in other spellings, its events in another order
and one of them twice. -/
def Sample.respelledOrders : Model where
  owningService _ := .ok "ORDERS"
  outgoingTargets _ _ :=
    .ok [⟨"flagged", "Flagged", .event⟩, ⟨"again", "orderPlaced", .event⟩,
      ⟨"placed", "ORDER_PLACED", .event⟩]

theorem respelled_orders_compile_alike :
    Model.SameClasses Sample.order Sample.orders Sample.respelledOrders ∧
      Rule.RespelledList Sample.rules Sample.respelledRules ∧
      compile Sample.order Sample.respelledOrders Sample.respelledRules
          Sample.declared =
        .ok (generatedBlock "Orders" Sample.rules Sample.declared) := by
  have alike : Model.SameClasses Sample.order Sample.orders
      Sample.respelledOrders := by
    refine ⟨⟨_, _, rfl, rfl, by decide +kernel⟩, ⟨_, _, rfl, rfl, ?_⟩⟩
    have leftNames : classNames
        [⟨"placed", "Order Placed", .event⟩, ⟨"flagged", "flagged", .event⟩] =
        ["OrderPlaced", "Flagged"] := by decide +kernel
    have rightNames : classNames
        [⟨"flagged", "Flagged", .event⟩, ⟨"again", "orderPlaced", .event⟩,
          ⟨"placed", "ORDER_PLACED", .event⟩] =
        ["Flagged", "OrderPlaced", "OrderPlaced"] := by decide +kernel
    intro name
    rw [leftNames, rightNames]
    simp only [List.mem_cons, List.not_mem_nil, or_false]
    tauto
  have respelled : Rule.RespelledList Sample.rules Sample.respelledRules := by
    refine .cons (.condition (.executeRules (.cons ?_ (.cons ?_ .nil))))
      (.cons ?_ .nil)
    · exact .condition (.recordEvent (by decide +kernel))
    · exact .always (.recordEvent (by decide +kernel))
    · exact .always (.recordEvent (by decide +kernel))
  have qualified : List.Forall₂ EquallyQualified
      (Rule.recordedEventsOf Sample.rules)
      (Rule.recordedEventsOf Sample.respelledRules) := by
    refine .cons ?_ (.cons ?_ (.cons ?_ .nil)) <;>
      simp [EquallyQualified]
  refine ⟨alike, respelled, ?_⟩
  rcases compile_alike_up_to_spelling alike respelled qualified
      Sample.declared with
    ⟨block, compiled, rightCompiled⟩ | ⟨_, _, failed, _⟩ |
      ⟨_, _, _, _, _, failed, _⟩
  · cases Sample.compile_rules.symm.trans compiled
    exact rightCompiled
  · cases Sample.compile_rules.symm.trans failed
  · cases Sample.compile_rules.symm.trans failed

end AggregateRules
