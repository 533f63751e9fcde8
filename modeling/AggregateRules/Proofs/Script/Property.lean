import AggregateRules.Proofs.Script.Text
import Mathlib.Data.List.Forall2

/-!
# Variables and fields as properties

Running the text of a compiled block gives every variable and every field as a
property of its own, with exactly its name. The two ways to the name `__proto__`
are closed at different places: a variable of this name does not compile, and a
field of this name is written in brackets. See `compiled_text_builds_objects`.
-/

namespace AggregateRules

open Compilation Script

def Mapping.fields? : Mapping → Option (OrderedMap Expression)
  | .expression _ => none
  | .fields entries => some entries

/-- The fields of the events that are recorded with fields, nested rules
included, in the order of the text. -/
def Rule.recordedFields (rules : List Rule) : List (OrderedMap Expression) :=
  (Rule.recordingsOf rules).filterMap fun recording =>
    recording.mapping.fields?

/-- The literal that some fields are written with. -/
def fieldEntries (fields : OrderedMap Expression) : List (Key × Expression) :=
  fields.entries.map fun field => (.ofField field.1, field.2)

theorem literals_payload (mapping : Mapping) :
    (payload mapping).literals = (mapping.fields?.map fieldEntries).toList := by
  cases mapping <;> rfl

section

variable {node : Node} {model : Model} {rules : List Rule}
  {declared : List Variable} {block : Block} {options : RenderOptions}

theorem literals_of_compile
    (compiled : compile node model rules declared = .ok block) :
    Block.literals block = (Rule.recordedFields rules).map fieldEntries := by
  rw [Block.literals, productions_of_compile compiled, Rule.recordedFields,
    List.flatMap_map, List.map_filterMap]
  induction Rule.recordingsOf rules with
  | nil => rfl
  | cons recording rest ih =>
      rw [List.flatMap_cons, ih, List.filterMap_cons]
      simp only [Recording.production, literals_payload]
      cases recording.mapping.fields? <;> rfl

theorem readLiterals_of_compile (store : isIdentifier options.store)
    (evaluator : isIdentifier options.evaluator)
    (compiled : compile node model rules declared = .ok block) :
    readLiterals options (lineContents (Block.render options block).toList) =
      some ((Rule.recordedFields rules).map fieldEntries) := by
  have plain : ∀ name ∈ Block.references block, '(' ∉ name.toList := by
    intro name isReference opened
    exact absurd (isWordCharacter_of_reference compiled isReference _ opened)
      (by decide)
  have read := Block.readLiterals_forms store block plain
    (by rfl : readLiterals options [] = some [])
  rw [List.append_nil, List.append_nil, literals_of_compile compiled] at read
  rw [lineContents_of_compile store evaluator compiled]
  exact read

theorem readDeclaration_of_compile (store : isIdentifier options.store)
    (evaluator : isIdentifier options.evaluator) (nonempty : rules ≠ [])
    (compiled : compile node model rules declared = .ok block) :
    readDeclaration options (lineContents (Block.render options block).toList) =
      some (declared.map fun entry => (entry.name, entry.initializer)) := by
  rw [lineContents_of_compile store evaluator compiled]
  obtain ⟨-, -, rfl⟩ := (compile_eq_ok_iff nonempty).mp compiled
  let bindings := declared.map fun entry => (entry.name, entry.initializer)
  let others := (Block.forms (separated
    (Rule.generatedList (model.serviceClass node) rules))).map
      (LineForm.text options)
  have first : LineForm.text options .declaration =
      "const ".toList ++ (options.store.toList ++ " = \x7b\x7d;".toList) := by
    simp [LineForm.text, LineForm.pieces, Piece.text]
  have lines : (Block.forms (generatedBlock (model.serviceClass node) rules
        declared)).map (LineForm.text options) =
      LineForm.text options .declaration ::
        ((bindings.map fun binding =>
          LineForm.text options (.binding binding.1 binding.2)) ++
            [] :: others) := by
    simp only [bindings, others, generatedBlock, declareVariables, Block.forms,
      Statement.forms, List.map_append, List.map_cons, List.map_map,
      List.cons_append, List.nil_append, Function.comp_def]
    rfl
  have stops : readAssignment options [] = none := by
    obtain ⟨first, rest, spelled, -⟩ := exists_cons_of_isIdentifier store
    rw [readAssignment, spelled]
    rfl
  rw [lines, readDeclaration, if_pos first]
  exact congrArg some (leading_append
    (fun binding => readAssignment_binding options binding.1 binding.2)
    stops others)

/-- The text of a compiled block, run by an evaluator that does not write to the
object with the variables, builds objects without surprises. If there are rules,
the text begins by setting the variables, and this leaves an object whose
properties are the declared variables, each with the value of its initializer.
For each event that is recorded with fields the text has one literal, and it
gives an object whose properties are the fields, each with the value of its
expression. No prototype is set. -/
theorem compiled_text_builds_objects (store : isIdentifier options.store)
    (evaluator : isIdentifier options.evaluator)
    (compiled : compile node model rules declared = .ok block)
    {Value State : Type} (evaluate : Reader Value State) :
    (rules ≠ [] → ∃ assignments,
      readDeclaration options
          (lineContents (Block.render options block).toList) =
        some assignments ∧
      BuildsPlain (runAssignments evaluate assignments)
        (declared.map Variable.name) (variableValues evaluate declared)) ∧
    ∃ literals,
      readLiterals options
          (lineContents (Block.render options block).toList) =
        some literals ∧
      List.Forall₂
        (fun entries fields => ∀ environment,
          BuildsPlain (runLiteral evaluate environment entries)
            (fields.entries.map Prod.fst)
            (fieldValues evaluate environment fields.entries))
        literals (Rule.recordedFields rules) := by
  constructor
  · intro nonempty
    obtain ⟨checked, -, -⟩ := (compile_eq_ok_iff nonempty).mp compiled
    obtain ⟨proper, -⟩ := checkVariables_eq_ok_iff.mp checked
    refine ⟨_, readDeclaration_of_compile store evaluator nonempty compiled, ?_⟩
    exact buildsPlain_variables evaluate proper.unreserved proper.distinct
  · refine ⟨_, readLiterals_of_compile store evaluator compiled, ?_⟩
    rw [List.forall₂_map_left_iff]
    refine List.forall₂_same.mpr fun fields _ environment => ?_
    exact buildsPlain_fields evaluate environment fields

end

namespace Sample

/-- Variables whose names are no identifiers, or nearly the reserved name. -/
def oddVariables : List Variable :=
  [⟨"__proto", ⟨"1"⟩⟩, ⟨"unit price", ⟨"ctx"⟩⟩, ⟨"\"] = \"", ⟨"2"⟩⟩]

def oddFields : List (String × Expression) :=
  [("__proto__", ⟨"sum"⟩), ("unit price", ⟨"id"⟩), ("total", ⟨"\x7d);"⟩)]

/-- Rules that record an event with fields of odd names. -/
def oddRules : List Rule :=
  [.whenTrue ⟨"open"⟩ (.executeRules
    [.always (.recordEvent "Order Placed" (.ofFields oddFields))])]

/-- Gives each expression with the number of evaluations before it. -/
def counting : Reader (String × Nat) Nat :=
  fun expression _ count => some ((expression.source, count), count + 1)

theorem odd_names_are_properties :
    compile order orders oddRules oddVariables =
        .ok (generatedBlock "Orders" oddRules oddVariables) ∧
      (∃ assignments,
        readDeclaration {}
          (lineContents (Block.render {}
            (generatedBlock "Orders" oddRules oddVariables)).toList) =
          some assignments ∧
        runAssignments counting assignments 0 =
          some (.plain [("__proto", ("1", 0)), ("unit price", ("ctx", 1)),
            ("\"] = \"", ("2", 2))], 3)) ∧
      ∃ entries,
        readLiterals {}
          (lineContents (Block.render {}
            (generatedBlock "Orders" oddRules oddVariables)).toList) =
          some [entries] ∧
        runLiteral counting (.plain []) entries 3 =
          some (.plain [("__proto__", ("sum", 3)), ("unit price", ("id", 4)),
            ("total", ("\x7d);", 5))], 6) := by
  have compiled : compile order orders oddRules oddVariables =
      .ok (generatedBlock "Orders" oddRules oddVariables) := by
    decide +kernel
  obtain ⟨declared, literals, read, built⟩ := compiled_text_builds_objects
    (by rfl : isIdentifier (RenderOptions.store {}) = true) (by rfl)
    compiled counting
  refine ⟨compiled, ?_, ?_⟩
  · obtain ⟨assignments, read, built⟩ := declared (by simp [oddRules])
    refine ⟨assignments, read, ?_⟩
    rw [built.result]
    rfl
  · have recorded : Rule.recordedFields oddRules =
        [OrderedMap.ofList oddFields] := rfl
    rw [recorded] at built
    cases built with
    | cons first rest =>
        cases rest
        refine ⟨_, read, ?_⟩
        rw [(first _).result]
        rfl

end Sample

end AggregateRules
