import AggregateRules.Proofs.Block.LineReader

/-!
# Reading a block

The lines of a block are put together by a machine that keeps the statements it
has read and the branches and scopes that are still open. It reads the lines of
a statement from any state as this statement, see `run_forms`. So the text of a
block determines the block, whatever its names and literals hold.
-/

namespace AggregateRules

/-- A statement with a body whose last line is not read yet. -/
inductive OpenStatement where
  | branch (condition : Condition)
  | scope

def OpenStatement.closed (body : Block) : OpenStatement → Statement
  | .branch condition => .branch condition body
  | .scope => .scope body

/-- What is known when some lines of a block are read. -/
structure Reading where
  /-- The statements of the innermost block, the last one first. -/
  done : List Statement := []
  /-- The open statements, the innermost one first, each with the statements
  before it in its block. -/
  outer : List (OpenStatement × List Statement) := []

namespace Reading

/-- A statement is read. -/
def add (statement : Statement) (reading : Reading) : Reading :=
  { reading with done := statement :: reading.done }

/-- The first line of a statement with a body is read. -/
def enter (statement : OpenStatement) (reading : Reading) : Reading :=
  ⟨[], (statement, reading.done) :: reading.outer⟩

/-- The last line of a statement with a body is read. -/
def leave (reading : Reading) : Option Reading :=
  match reading.outer with
  | [] => none
  | (statement, done) :: outer =>
      some ⟨statement.closed reading.done.reverse :: done, outer⟩

/-- The line of a binding is read, which belongs to the last statement. -/
def extendBindings (binding : String × Expression) (reading : Reading) :
    Option Reading :=
  match reading.done with
  | .declareVariables bindings :: done =>
      some ⟨.declareVariables (bindings ++ [binding]) :: done, reading.outer⟩
  | _ => none

def extendRecord (field : String × Expression) (reading : Reading) :
    Option Reading :=
  match reading.done with
  | .produce service event (.record fields) :: done =>
      let payload := .record (fields ++ [field])
      some ⟨.produce service event payload :: done, reading.outer⟩
  | _ => none

/-- What is known when one more line is read. -/
def step (reading : Reading) : LineForm → Option Reading
  | .declaration => some (reading.add (.declareVariables []))
  | .binding name value => reading.extendBindings (name, value)
  | .branch condition => some (reading.enter (.branch condition))
  | .scope => some (reading.enter .scope)
  | .close => reading.leave
  | .whole service event value =>
      some (reading.add (.produce service event (.whole value)))
  | .emptyRecord service event | .openRecord service event =>
      some (reading.add (.produce service event (.record [])))
  | .field name value => reading.extendRecord (name, value)
  | .closeRecord => some reading
  | .finish => some (reading.add .finish)
  | .separator => some (reading.add .separator)

/-- What is known when some more lines are read, one after the other. -/
def run (reading : Reading) : List LineForm → Option Reading
  | [] => some reading
  | form :: forms => do (← reading.step form).run forms

@[simp] theorem run_nil (reading : Reading) : reading.run [] = some reading :=
  rfl

theorem run_cons {reading next : Reading} {form : LineForm}
    (stepped : reading.step form = some next) (forms : List LineForm) :
    reading.run (form :: forms) = next.run forms := by
  rw [run, stepped]
  rfl

theorem run_append {reading next : Reading} {forms : List LineForm}
    (ran : reading.run forms = some next) (more : List LineForm) :
    reading.run (forms ++ more) = next.run more := by
  induction forms generalizing reading with
  | nil =>
      cases ran
      rfl
  | cons form forms ih =>
      obtain ⟨middle, stepped, rest⟩ := Option.bind_eq_some_iff.mp ran
      rw [List.cons_append, run_cons stepped]
      exact ih rest

theorem run_bindings (before bindings : List (String × Expression))
    (reading : Reading) :
    (reading.add (.declareVariables before)).run
        (bindings.map fun binding => .binding binding.1 binding.2) =
      some (reading.add (.declareVariables (before ++ bindings))) := by
  induction bindings generalizing before with
  | nil => simp
  | cons binding bindings ih =>
      have extended := ih (before ++ [binding])
      rw [List.append_assoc, List.singleton_append] at extended
      rw [List.map_cons, run_cons rfl]
      exact extended

theorem run_fields (service event : String)
    (before fields : List (String × Expression)) (reading : Reading) :
    (reading.add (.produce service event (.record before))).run
        (fields.map fun field => .field field.1 field.2) =
      some (reading.add
        (.produce service event (.record (before ++ fields)))) := by
  induction fields generalizing before with
  | nil => simp
  | cons field fields ih =>
      have extended := ih (before ++ [field])
      rw [List.append_assoc, List.singleton_append] at extended
      rw [List.map_cons, run_cons rfl]
      exact extended

theorem run_payload (service event : String) (payload : Payload)
    (reading : Reading) :
    reading.run (payload.forms service event) =
      some (reading.add (.produce service event payload)) := by
  cases payload with
  | whole value => rfl
  | record fields =>
      cases fields with
      | nil => rfl
      | cons field rest =>
          have inside := run_fields service event [] (field :: rest) reading
          have shape : (Payload.record (field :: rest)).forms service event =
              .openRecord service event ::
                ((field :: rest).map fun field => .field field.1 field.2) ++
                [.closeRecord] := rfl
          rw [shape, List.cons_append, run_cons rfl, run_append inside]
          rfl

theorem run_enclosed {reading : Reading} {opening : LineForm}
    {statement : OpenStatement}
    (opens : reading.step opening = some (reading.enter statement))
    {body : Block}
    (inner : (reading.enter statement).run (Block.forms body) =
      some ⟨body.reverse, (reading.enter statement).outer⟩) :
    reading.run (opening :: Block.forms body ++ [.close]) =
      some (reading.add (statement.closed body)) := by
  rw [List.cons_append, run_cons opens, run_append inner]
  simp [run, step, leave, enter, add]

mutual

theorem run_forms (statement : Statement) (reading : Reading) :
    reading.run statement.forms = some (reading.add statement) := by
  cases statement with
  | declareVariables bindings =>
      rw [Statement.forms, run_cons rfl]
      exact run_bindings [] bindings reading
  | branch condition body =>
      have inner := run_block_forms body (reading.enter (.branch condition))
      rw [enter, List.append_nil] at inner
      exact run_enclosed rfl inner
  | scope body =>
      have inner := run_block_forms body (reading.enter .scope)
      rw [enter, List.append_nil] at inner
      exact run_enclosed rfl inner
  | produce service event payload =>
      exact run_payload service event payload reading
  | finish => rfl
  | separator => rfl

theorem run_block_forms (block : Block) (reading : Reading) :
    reading.run (Block.forms block) =
      some ⟨block.reverse ++ reading.done, reading.outer⟩ := by
  cases block with
  | nil => rfl
  | cons statement rest =>
      have first := run_forms statement reading
      have others := run_block_forms rest (reading.add statement)
      rw [Block.forms, run_append first, others]
      simp [add]

end

end Reading

/-- The block that a text shows. -/
def Block.read (options : RenderOptions) (text : String) : Option Block := do
  let forms ← (lineContents text.toList).mapM (LineForm.read options)
  let reading ← Reading.run {} forms
  some reading.done.reverse

theorem LineForm.mapM_read_text {options : RenderOptions}
    (store : isIdentifier options.store) {forms : List LineForm}
    (named : ∀ form ∈ forms, form.wellNamed) :
    (forms.map (text options)).mapM (read options) = some forms := by
  induction forms with
  | nil => rfl
  | cons form rest ih =>
      obtain ⟨formNamed, restNamed⟩ := List.forall_mem_cons.mp named
      rw [List.map_cons, List.mapM_cons, read_text store formNamed,
        ih restNamed]
      rfl

/-- A text with one plain line for each form of a block splits into these lines.
-/
theorem Block.lineContents_of_plain {options : RenderOptions} {block : Block}
    (plain : ∀ form ∈ Block.forms block,
      PlainLine (LineForm.text options form)) :
    lineContents (Block.text options block) =
      (Block.forms block).map (LineForm.text options) := by
  have pieces := Block.map_pieces_lines options block
  have plainLines : ∀ line ∈ Block.lines options block,
      PlainLine (line.pieces.flatMap Piece.text) :=
    Block.forall_mem_lines (fun pieces => PlainLine (pieces.flatMap Piece.text))
      plain
  calc lineContents (Block.text options block)
      = (Block.lines options block).map fun line =>
          line.pieces.flatMap Piece.text := lineContents_flatMap_text plainLines
    _ = ((Block.lines options block).map Line.pieces).map
          (List.flatMap Piece.text) := by
        rw [List.map_map]
        rfl
    _ = (Block.forms block).map (LineForm.text options) := by
        rw [pieces, List.map_map]
        rfl

section

variable {options : RenderOptions} (store : isIdentifier options.store)
  (evaluator : isIdentifier options.evaluator)

include store evaluator

theorem Block.lineContents_text {block : Block}
    (named : Block.wellNamed block) :
    lineContents (Block.text options block) =
      (Block.forms block).map (LineForm.text options) := by
  apply Block.lineContents_of_plain
  intro form isForm
  have formNamed := Block.wellNamed_forms named form isForm
  exact LineForm.plainLine_text store evaluator formNamed

theorem Block.read_render {block : Block} (named : Block.wellNamed block) :
    Block.read options (Block.render options block) = some block := by
  have lines := Block.lineContents_text store evaluator named
  have forms := LineForm.mapM_read_text store (Block.wellNamed_forms named)
  have ran := Reading.run_block_forms block {}
  rw [Block.read, Block.render, String.toList_ofList, lines]
  simp only [forms, ran, Option.bind_eq_bind, Option.bind_some,
    List.append_nil, List.reverse_reverse]

/-- The text of a block determines the block: it can be read back, and blocks
with equal texts are equal. The names of the store and of the evaluator may be
any identifiers, also words of the language, and nothing is asked of names of
variables, names of fields and expressions. -/
theorem text_determines_block :
    (∀ block, Block.wellNamed block →
      Block.read options (Block.render options block) = some block) ∧
    ∀ left right, Block.wellNamed left → Block.wellNamed right →
      Block.render options left = Block.render options right →
      left = right := by
  constructor
  · intro block named
    exact Block.read_render store evaluator named
  · intro left right leftNamed rightNamed same
    have leftRead := Block.read_render store evaluator leftNamed
    have rightRead := Block.read_render store evaluator rightNamed
    rw [same, rightRead] at leftRead
    exact (Option.some.inj leftRead).symm

end

/-- Options without indentation, and with names that are words of the language.
-/
def Sample.keywordOptions : RenderOptions :=
  { indent := 0, store := "if", evaluator := "return" }

/-- A block whose names and expressions look like code. -/
def Sample.misleadingBlock : Block :=
  [.declareVariables [("const x", ⟨"\x7d"⟩), ("if", ⟨"\", if);\nreturn;"⟩)],
    .branch ⟨⟨"true)) \x7b"⟩, true⟩
      [.scope [],
        .produce "Orders" "OrderPlaced"
          (.record [("__proto__", ⟨"a"⟩), ("\": ", ⟨"\\"⟩), ("yield", ⟨""⟩)]),
        .separator],
    .produce "Orders" "OrderPlaced" (.whole ⟨"1\", if);\nreturn;"⟩)]

/-- The block that the last expression of `Sample.misleadingBlock` imitates. -/
def Sample.imitatedBlock : Block :=
  [.produce "Orders" "OrderPlaced" (.whole ⟨"1"⟩), .finish]

theorem misleading_block_determined :
    Block.read Sample.keywordOptions
        (Block.render Sample.keywordOptions Sample.misleadingBlock) =
        some Sample.misleadingBlock ∧
      Block.render Sample.keywordOptions Sample.misleadingBlock ≠
        Block.render Sample.keywordOptions Sample.imitatedBlock := by
  have determined := @text_determines_block Sample.keywordOptions
    (by decide) (by decide)
  have misleadingNamed : Block.wellNamed Sample.misleadingBlock := by decide
  have imitatedNamed : Block.wellNamed Sample.imitatedBlock := by decide
  constructor
  · exact determined.1 _ misleadingNamed
  · intro same
    have equal := determined.2 _ _ misleadingNamed imitatedNamed same
    exact absurd equal (by decide)

end AggregateRules
