import AggregateRules.Proofs.Block.Layout
import AggregateRules.Proofs.Compilation.CompiledText

/-!
# Shifted texts

The body of a branch or a scope is the text of its statements, each line moved
to the right, see `Block.deeperText_eq_shifted`. This is true line by line, so
it needs that no line is broken by what it shows: empty lines stay empty, and
all others get the same blanks at their beginning.
-/

namespace AggregateRules

/-- Moves all lines of a text to the right, except for empty ones. -/
def shifted (width : Nat) (text : List Char) : List Char :=
  joinLines ((textLines text).map fun line =>
    if line = [] then [] else List.replicate width ' ' ++ line)

theorem shifted_line {line : List Char} (single : '\n' ∉ line) (width : Nat)
    (rest : List Char) :
    shifted width (line ++ '\n' :: rest) =
      (if line = [] then [] else List.replicate width ' ' ++ line) ++
        '\n' :: shifted width rest := by
  rw [shifted, textLines_line single, List.map_cons, joinLines,
    List.flatMap_cons, List.append_assoc]
  rfl

/-- The text of a block that is the body of a statement. -/
def Block.deeperText (options : RenderOptions) (block : Block) : List Char :=
  ((Block.lines options block).map Line.deeper).flatMap
    (Line.text options.indent)

section

variable (options : RenderOptions)

theorem Block.lines_append (first second : Block) :
    Block.lines options (first ++ second) =
      Block.lines options first ++ Block.lines options second := by
  induction first with
  | nil => rfl
  | cons statement rest ih =>
      rw [List.cons_append, Block.lines, Block.lines, ih, List.append_assoc]

theorem Block.text_append (first second : Block) :
    Block.text options (first ++ second) =
      Block.text options first ++ Block.text options second := by
  rw [Block.text, Block.lines_append, List.flatMap_append]
  rfl

theorem Block.deeperText_append (first second : Block) :
    Block.deeperText options (first ++ second) =
      Block.deeperText options first ++ Block.deeperText options second := by
  rw [Block.deeperText, Block.lines_append, List.map_append,
    List.flatMap_append]
  rfl

theorem Block.text_scope (body : Block) :
    Block.text options [.scope body] =
      "\x7b\n".toList ++ Block.deeperText options body ++ "\x7d\n".toList := by
  simp [Block.text, Block.lines, Statement.lines, Block.deeperText,
    Line.outermost, Line.text, Piece.text]

/-- The line that opens a branch. -/
def Condition.opening (condition : Condition) : String :=
  let test := "await " ++ options.evaluator ++ "(" ++
    String.ofList (Json.quote condition.test.source) ++ ", " ++
      options.store ++ ")"
  if condition.negated then "if (!(" ++ test ++ ")) \x7b\n"
  else "if (" ++ test ++ ") \x7b\n"

theorem Block.text_branch (condition : Condition) (body : Block) :
    Block.text options [.branch condition body] =
      (condition.opening options).toList ++ Block.deeperText options body ++
        "\x7d\n".toList := by
  obtain ⟨test, negated⟩ := condition
  cases negated <;>
    simp [Block.text, Block.lines, Statement.lines, Block.deeperText,
      Condition.line, Condition.opening, Expression.pieces, Line.outermost,
      Line.text, Piece.text]

end

/-- Pieces that stay on one line, and show something if there are any. -/
structure OneLine (pieces : List Piece) : Prop where
  single : '\n' ∉ pieces.flatMap Piece.text
  shows : pieces ≠ [] → pieces.flatMap Piece.text ≠ []

theorem Line.shown_deeper {line : Line} (oneLine : OneLine line.pieces)
    (indent : Nat) :
    line.deeper.shown indent =
      if line.shown indent = [] then []
      else List.replicate indent ' ' ++ line.shown indent := by
  obtain ⟨depth, pieces⟩ := line
  cases pieces with
  | nil => rfl
  | cons piece more =>
      have shows : shown indent ⟨depth, piece :: more⟩ ≠ [] := by
        intro empty
        exact oneLine.shows (List.cons_ne_nil _ _)
          (List.append_eq_nil_iff.mp empty).2
      have width : (depth + 1) * indent = indent + depth * indent := by
        rw [Nat.succ_mul, Nat.add_comm]
      rw [if_neg shows]
      change List.replicate ((depth + 1) * indent) ' ' ++ _ = _
      rw [width, ← List.replicate_append_replicate, List.append_assoc]
      rfl

theorem shifted_flatMap_text {lines : List Line}
    (oneLine : ∀ line ∈ lines, OneLine line.pieces) (indent : Nat) :
    shifted indent (lines.flatMap (Line.text indent)) =
      (lines.map Line.deeper).flatMap (Line.text indent) := by
  induction lines with
  | nil => rfl
  | cons line rest ih =>
      obtain ⟨first, others⟩ := List.forall_mem_cons.mp oneLine
      rw [List.flatMap_cons, Line.text_eq, List.append_assoc,
        List.singleton_append,
        shifted_line (Line.newline_notMem_shown first.single indent),
        ih others, ← Line.shown_deeper first, List.map_cons,
        List.flatMap_cons, Line.text_eq, List.append_assoc,
        List.singleton_append]

theorem LineForm.text_ne_nil {form : LineForm} (options : RenderOptions)
    (isLine : form ≠ .separator) : form.text options ≠ [] := by
  cases form with
  | binding name value => simp [text_binding]
  | field name value => simp [text_field]
  | branch condition =>
      obtain ⟨test, negated⟩ := condition
      cases negated with
      | false | true => exact List.cons_ne_nil _ _
  | separator => exact absurd rfl isLine
  | declaration | scope | close | whole | emptyRecord | openRecord
  | closeRecord | finish => exact List.cons_ne_nil _ _

section

variable {options : RenderOptions} (store : '\n' ∉ options.store.toList)
  (evaluator : '\n' ∉ options.evaluator.toList)

include store evaluator

theorem LineForm.newline_notMem_text {form : LineForm}
    (single : ∀ name ∈ form.references, '\n' ∉ name.toList) :
    '\n' ∉ form.text options := by
  have evaluation (value : Expression) :
      '\n' ∉ (value.pieces options).flatMap Piece.text := by
    simp [Expression.pieces, Piece.text, store, evaluator,
      Json.newline_notMem_quote]
  have begin {service event : String}
      (names : ∀ name ∈ [service, event], '\n' ∉ name.toList) :
      '\n' ∉ (producePieces service event).flatMap Piece.text := by
    have ofService := names service (by simp)
    have ofEvent := names event (by simp)
    simp [producePieces, Piece.text, ofService, ofEvent]
  cases form with
  | declaration => simp [text, pieces, Piece.text, store]
  | binding name value =>
      have member := newline_notMem_of_clean (clean_memberPieces name)
      simp [text_binding, store, member, evaluation]
  | field name value =>
      have key := newline_notMem_of_clean (clean_keyPieces name)
      simp [text_field, key, evaluation]
  | branch condition =>
      obtain ⟨test, negated⟩ := condition
      have isEvaluated := evaluation test
      cases negated with
      | false | true =>
          simp [text, pieces, Condition.line, Line.outermost, Piece.text,
            isEvaluated]
  | whole service event value =>
      have isEvaluated := evaluation value
      simp [text_whole, begin single, isEvaluated]
  | emptyRecord service event => simp [text_emptyRecord, begin single]
  | openRecord service event => simp [text_openRecord, begin single]
  | scope | close | closeRecord | finish | separator =>
      simp [text, pieces, Piece.text]

/-- No line of a block is broken as long as no reference is. -/
theorem Block.oneLine_pieces {block : Block}
    (single : ∀ name ∈ Block.references block, '\n' ∉ name.toList) :
    ∀ line ∈ Block.lines options block, OneLine line.pieces := by
  apply Block.forall_mem_lines OneLine
  intro form isForm
  constructor
  · apply LineForm.newline_notMem_text store evaluator
    intro name isReference
    apply single
    rw [← Block.flatMap_references_forms]
    exact List.mem_flatMap.mpr ⟨form, isForm, isReference⟩
  · intro isLine
    apply LineForm.text_ne_nil options
    rintro rfl
    exact isLine rfl

/-- A body is the text of its statements, moved to the right. -/
theorem Block.deeperText_eq_shifted {block : Block}
    (single : ∀ name ∈ Block.references block, '\n' ∉ name.toList) :
    Block.deeperText options block =
      shifted options.indent (Block.text options block) :=
  (shifted_flatMap_text (Block.oneLine_pieces store evaluator single) _).symm

end

end AggregateRules
