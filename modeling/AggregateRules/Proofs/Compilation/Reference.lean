import AggregateRules.Proofs.Compilation.Production
import AggregateRules.Proofs.Compilation.Recordable
import AggregateRules.Proofs.Label.ClassName

/-!
# References to classes in generated code

Generated code names the class of an event behind the class of its service, and
both names should be identifiers. That the compilation looks at the first
character alone guarantees less: the names start with a letter and cannot be
taken for other code, but they may contain letters and numbers that identifiers
do not have. They are identifiers if and only if the labels spell identifiers,
see `references_of_compiled_block`.
-/

namespace AggregateRules

open Unicode Label

/-- The names that an event is handed out by, the one of its service first. -/
def Production.references (production : Production) : List String :=
  [production.service, production.event]

/-- The names that a block refers to classes by. -/
def Block.references (block : Block) : List String :=
  (Block.productions block).flatMap Production.references

section

variable {node : Node} {model : Model} {rules : List Rule}
  {declared : List Variable} {block : Block}

theorem mem_references_of_compile
    (compiled : compile node model rules declared = .ok block) {name : String} :
    name ∈ Block.references block ↔
      ∃ event ∈ Rule.recordedEventsOf rules,
        name = model.serviceClass node ∨ name = className event := by
  rw [Block.references, productions_of_compile compiled,
    ← Rule.map_event_recordingsOf]
  simp [Production.references, Recording.production]

/-- A reference is the class name of a label and starts with a letter. -/
theorem exists_label_of_reference
    (compiled : compile node model rules declared = .ok block) {name : String}
    (isReference : name ∈ Block.references block) :
    ∃ label, name = className label ∧ StartsWithLetter (className label) := by
  obtain ⟨event, recorded, named⟩ :=
    (mem_references_of_compile compiled).mp isReference
  obtain ⟨asked, -, -, -, serviceLetter, eventLetter⟩ :=
    recordable_of_compile compiled recorded
  cases named with
  | inl isService =>
      rw [Model.serviceClass, asked] at isService
      exact ⟨_, isService, serviceLetter⟩
  | inr isEvent => exact ⟨event, isEvent, eventLetter⟩

theorem isWordCharacter_of_reference
    (compiled : compile node model rules declared = .ok block) {name : String}
    (isReference : name ∈ Block.references block) :
    ∀ character ∈ name.toList, isWordCharacter character = true := by
  obtain ⟨label, rfl, -⟩ := exists_label_of_reference compiled isReference
  intro character member
  exact isWordCharacter_of_mem_className member

/-- The references of a compiled block start with a letter and have no
characters with a meaning in code. They are identifiers, all of them, if and
only if the names of the recorded events and the label of the service spell
identifiers. -/
theorem references_of_compiled_block
    (compiled : compile node model rules declared = .ok block) :
    (∀ name ∈ Block.references block, StartsWithLetter name ∧
      ∀ character ∈ name.toList, isWordCharacter character = true) ∧
    ((∀ name ∈ Block.references block, isIdentifierName name = true) ↔
      ∀ event ∈ Rule.recordedEventsOf rules, SpellsIdentifier event ∧
        ∀ service, model.owningService node = .ok service →
          SpellsIdentifier service) := by
  constructor
  · intro name isReference
    have word := isWordCharacter_of_reference compiled isReference
    obtain ⟨label, rfl, letter⟩ :=
      exists_label_of_reference compiled isReference
    exact ⟨letter, word⟩
  · constructor
    · intro identifiers event recorded
      constructor
      · rw [← isIdentifierName_className_iff]
        exact identifiers _ ((mem_references_of_compile compiled).mpr
          ⟨event, recorded, .inr rfl⟩)
      · intro service asked
        have isReference := (mem_references_of_compile compiled).mpr
          ⟨event, recorded, .inl rfl⟩
        rw [Model.serviceClass, asked] at isReference
        rw [← isIdentifierName_className_iff]
        exact identifiers _ isReference
    · intro spelled name isReference
      obtain ⟨event, recorded, named⟩ :=
        (mem_references_of_compile compiled).mp isReference
      obtain ⟨eventSpelled, serviceSpelled⟩ := spelled event recorded
      obtain ⟨asked, -, -, -, -, -⟩ := recordable_of_compile compiled recorded
      cases named with
      | inl isService =>
          rw [isService, Model.serviceClass, asked]
          exact (isIdentifierName_className_iff _).mpr (serviceSpelled _ asked)
      | inr isEvent =>
          rw [isEvent]
          exact (isIdentifierName_className_iff _).mpr eventSpelled

end

namespace Sample

theorem order_references_are_identifiers :
    compile order orders rules declared =
        .ok (generatedBlock "Orders" rules declared) ∧
      ∀ name ∈ Block.references (generatedBlock "Orders" rules declared),
        isIdentifierName name = true := by
  refine ⟨compile_rules, ?_⟩
  refine (references_of_compiled_block compile_rules).2.mpr ?_
  intro event recorded
  constructor
  · rw [← isIdentifierName_className_iff]
    revert event
    decide +kernel
  · intro service asked
    cases asked
    rw [← isIdentifierName_className_iff]
    decide +kernel

/-- A model with one event, whatever its label is. -/
def labelled (event : String) : Model where
  owningService _ := .ok "Orders"
  outgoingTargets _ _ := .ok [⟨"event", event, .event⟩]

def recording (event : String) : List Rule :=
  [.always (.recordEvent event (.expression ⟨"value"⟩))]

/-- Identifiers have neither superscript digits nor letters in circles. Events
with such names compile, and code refers to them by these names. -/
theorem superscript_and_circled_references :
    (∀ event ∈ ["Area²", "Ⓐrea"],
      ∃ block, compile order (labelled event) (recording event) [] = .ok block ∧
        event ∈ Block.references block) ∧
      isIdentifierName "Area²" = false ∧ isIdentifierName "Ⓐrea" = false := by
  refine ⟨?_, by decide +kernel, by decide +kernel⟩
  intro event either
  refine ⟨generatedBlock "Orders" (recording event) [], ?_⟩
  revert event
  decide +kernel

end Sample

end AggregateRules
