import Mathlib.Tactic.ByContra
import AggregateRules.Proofs.Compilation.FirstFault

/-!
# Events that can be recorded

The model knows events by labels, and rules name them by spellings of their own.
An event can be recorded if its class is one of the classes that the model
knows, and if code can refer to this class and to the class of the service, see
`checkEvent_eq_ok_iff_recordable`.
-/

namespace AggregateRules

open Compilation

theorem sameClass_iff {left right : String} :
    Label.sameClass left right = true ↔
      Label.className left = Label.className right :=
  beq_iff_eq

/-- The classes of some events. -/
def classNames (targets : List Node) : List String :=
  targets.map fun target => Label.className target.name

theorem mem_classNames_iff {targets : List Node} {event : String} :
    Label.className event ∈ classNames targets ↔
      ∃ target ∈ targets, Label.sameClass target.name event = true := by
  simp only [classNames, List.mem_map, sameClass_iff]

theorem exists_find?_of_mem_classNames {targets : List Node} {event : String}
    (known : Label.className event ∈ classNames targets) :
    ∃ target,
      targets.find? (fun target => Label.sameClass target.name event) =
          some target ∧
        Label.className target.name = Label.className event := by
  obtain ⟨target, member, sameClass⟩ := mem_classNames_iff.mp known
  cases found : targets.find? fun target =>
      Label.sameClass target.name event with
  | none =>
      have apart := List.find?_eq_none.mp found target member
      exact absurd sameClass apart
  | some first =>
      have sameFirst := List.find?_some (p := fun target : Node =>
        Label.sameClass target.name event) found
      exact ⟨first, rfl, sameClass_iff.mp sameFirst⟩

theorem className_of_find? {targets : List Node} {event : String}
    {target : Node}
    (found : targets.find? (fun target =>
      Label.sameClass target.name event) = some target) :
    Label.className target.name = Label.className event ∧
      Label.className event ∈ classNames targets := by
  have sameClass := List.find?_some (p := fun target : Node =>
    Label.sameClass target.name event) found
  refine ⟨sameClass_iff.mp sameClass, ?_⟩
  exact mem_classNames_iff.mpr
    ⟨target, List.mem_of_find?_eq_some found, sameClass⟩

/-- What it takes to record an event. -/
inductive Recordable (node : Node) (model : Model) (event : String) : Prop where
  | intro :
      model.owningService node = .ok service →
      '.' ∉ event.toList →
      model.outgoingTargets node .event = .ok targets →
      Label.className event ∈ classNames targets →
      StartsWithLetter (Label.className service) →
      StartsWithLetter (Label.className event) →
      Recordable node model event

section

variable {node : Node} {model : Model} {event : String}

theorem recordable_of_checkEvent
    (passed : checkEvent node model event = .ok ()) :
    Recordable node model event := by
  have sound := checkEvent_eq_ok_iff.mp passed
  cases asked : model.owningService node with
  | error diagnostic => exact absurd (.unknownService asked) (sound _)
  | ok service =>
      have bare : '.' ∉ event.toList :=
        fun dotted => sound _ (.qualified asked dotted)
      cases known : model.outgoingTargets node .event with
      | error diagnostic =>
          exact absurd (.unknownTargets asked bare known) (sound _)
      | ok targets =>
          have connected : Label.className event ∈ classNames targets := by
            by_contra unknown
            apply sound _ (.notConnected asked bare known ?_)
            intro target member
            rw [Bool.eq_false_iff]
            exact fun sameClass => unknown
              (mem_classNames_iff.mpr ⟨target, member, sameClass⟩)
          obtain ⟨target, found, sameName⟩ :=
            exists_find?_of_mem_classNames connected
          have serviceLetter : StartsWithLetter (Label.className service) := by
            by_contra noLetter
            exact sound _ (.unusableService asked bare known found noLetter)
          have eventLetter : StartsWithLetter (Label.className event) := by
            rw [← sameName]
            by_contra noLetter
            exact sound _
              (.unusableTarget asked bare known found serviceLetter noLetter)
          exact ⟨asked, bare, known, connected, serviceLetter, eventLetter⟩

theorem Recordable.noFault (recordable : Recordable node model event)
    (error : CompileError) : ¬ EventFault node model event error := by
  obtain ⟨asked, bare, known, connected, serviceLetter, eventLetter⟩ :=
    recordable
  intro fault
  cases fault with
  | unknownService refused => cases asked.symm.trans refused
  | qualified _ dotted => exact bare dotted
  | unknownTargets _ _ refused => cases known.symm.trans refused
  | notConnected _ _ again apart =>
      cases known.symm.trans again
      obtain ⟨target, member, sameClass⟩ := mem_classNames_iff.mp connected
      exact absurd sameClass (Bool.eq_false_iff.mp (apart target member))
  | unusableService again _ _ _ noLetter =>
      cases asked.symm.trans again
      exact noLetter serviceLetter
  | unusableTarget _ _ again found _ noLetter =>
      rw [(className_of_find? found).1] at noLetter
      exact noLetter eventLetter

theorem checkEvent_eq_ok_iff_recordable :
    checkEvent node model event = .ok () ↔ Recordable node model event :=
  ⟨recordable_of_checkEvent,
    fun recordable => checkEvent_eq_ok_iff.mpr recordable.noFault⟩

/-- Whatever rules record that compile, can be recorded. -/
theorem recordable_of_compile {rules : List Rule} {declared : List Variable}
    {block : Block} (compiled : compile node model rules declared = .ok block)
    (recorded : event ∈ Rule.recordedEventsOf rules) :
    Recordable node model event := by
  have nonempty : rules ≠ [] := by
    rintro rfl
    cases recorded
  obtain ⟨-, passed, -⟩ := (compile_eq_ok_iff nonempty).mp compiled
  exact recordable_of_checkEvent (passed event recorded)

end

end AggregateRules
