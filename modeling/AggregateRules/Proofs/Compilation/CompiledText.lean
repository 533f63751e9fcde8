import AggregateRules.Proofs.Block.Reading
import AggregateRules.Proofs.Compilation.Reference

/-!
# Lines of a compiled block

The classes that a block refers to may have names of any script, so the text of
a compiled block cannot always be read back by a reader of ASCII identifiers.
It still splits into the lines of the block, as no name contains a line feed,
see `lineContents_of_compile`.
-/

namespace AggregateRules

namespace LineForm

/-- The names that a line refers to classes by. -/
def references : LineForm → List String
  | .whole service event _ | .emptyRecord service event
  | .openRecord service event => [service, event]
  | _ => []

end LineForm

theorem Payload.flatMap_references_forms (service event : String)
    (payload : Payload) :
    (payload.forms service event).flatMap LineForm.references =
      [service, event] := by
  cases payload with
  | whole value => rfl
  | record fields =>
      cases fields with
      | nil => rfl
      | cons field rest =>
          have noReferences : (rest.map fun field =>
              LineForm.field field.1 field.2).flatMap LineForm.references =
                [] := by
            simp [List.flatMap_map, LineForm.references]
          simp [Payload.forms, LineForm.references, noReferences]

mutual

theorem Statement.flatMap_references_forms (statement : Statement) :
    statement.forms.flatMap LineForm.references =
      statement.productions.flatMap Production.references := by
  cases statement with
  | declareVariables bindings =>
      simp [Statement.forms, Statement.productions, List.flatMap_map,
        LineForm.references]
  | branch condition body =>
      have inner := Block.flatMap_references_forms body
      simp [Statement.forms, Statement.productions, LineForm.references,
        List.flatMap_append, inner, Block.references]
  | scope body =>
      have inner := Block.flatMap_references_forms body
      simp [Statement.forms, Statement.productions, LineForm.references,
        List.flatMap_append, inner, Block.references]
  | produce service event payload =>
      exact payload.flatMap_references_forms service event
  | finish => rfl
  | separator => rfl

theorem Block.flatMap_references_forms (block : List Statement) :
    (Block.forms block).flatMap LineForm.references =
      Block.references block := by
  cases block with
  | nil => rfl
  | cons statement rest =>
      have first := Statement.flatMap_references_forms statement
      have others := Block.flatMap_references_forms rest
      simp [Block.forms, Block.references, Block.productions,
        List.flatMap_append, first, others]

end

section

variable {options : RenderOptions} (store : isIdentifier options.store)
  (evaluator : isIdentifier options.evaluator)

include store evaluator

theorem LineForm.plainLine_of_references {form : LineForm}
    (single : ∀ name ∈ form.references, '\n' ∉ name.toList) :
    PlainLine (text options form) := by
  refine ⟨?_, noBlank_text store form⟩
  have begun {service event : String}
      (names : ∀ name ∈ [service, event], '\n' ∉ name.toList) :
      '\n' ∉ (producePieces service event).flatMap Piece.text := by
    have ofService := names service (by simp)
    have ofEvent := names event (by simp)
    simp [producePieces, Piece.text, ofService, ofEvent]
  cases form with
  | whole service event value =>
      have evaluation :=
        newline_notMem_of_clean (clean_evaluation store evaluator value)
      rw [text_whole]
      simp only [List.mem_append, List.mem_cons, not_or]
      exact ⟨begun single, by decide, evaluation, by decide⟩
  | emptyRecord service event | openRecord service event =>
      simp only [text, pieces, List.flatMap_append, List.mem_append, not_or]
      exact ⟨begun single, by decide⟩
  | declaration | binding | branch | scope | close | field | closeRecord
  | finish | separator => exact (plainLine_text store evaluator rfl).single

/-- The text of a compiled block has the lines of the block. -/
theorem lineContents_of_compile {node : Node} {model : Model}
    {rules : List Rule} {declared : List Variable} {block : Block}
    (compiled : compile node model rules declared = .ok block) :
    lineContents (Block.render options block).toList =
      (Block.forms block).map (LineForm.text options) := by
  rw [Block.render, String.toList_ofList]
  apply Block.lineContents_of_plain
  intro form isForm
  apply LineForm.plainLine_of_references store evaluator
  intro name isReference newline
  have inBlock : name ∈ Block.references block := by
    rw [← Block.flatMap_references_forms]
    exact List.mem_flatMap.mpr ⟨form, isForm, isReference⟩
  exact absurd (isWordCharacter_of_reference compiled inBlock _ newline)
    (by decide)

end

end AggregateRules
