import AggregateRules.Block.Render
import AggregateRules.Proofs.Json.Quoted

/-!
# Forms of lines

Every line of generated code has one of twelve forms, and a block is shown as a
sequence of forms. Indentation tells nothing more, and no line is broken by what
a literal holds: the text of a block splits into the texts of its forms, see
`lineContents_flatMap_text`.
-/

namespace AggregateRules

/-- What a line of generated code says. -/
inductive LineForm where
  | declaration
  | binding (name : String) (value : Expression)
  | branch (condition : Condition)
  | scope
  | close
  | whole (service event : String) (value : Expression)
  | emptyRecord (service event : String)
  | openRecord (service event : String)
  | field (name : String) (value : Expression)
  | closeRecord
  | finish
  | separator
  deriving DecidableEq

namespace LineForm

def pieces (options : RenderOptions) : LineForm → List Piece
  | .declaration => [.code "const ", .code options.store, .code " = \x7b\x7d;"]
  | .binding name value => (bindingLine options (name, value)).pieces
  | .branch condition => (condition.line options).pieces
  | .scope => [.code "\x7b"]
  | .close => [.code "\x7d"]
  | .whole service event value =>
      producePieces service event ++
        .code "(" :: value.pieces options ++ [.code ");"]
  | .emptyRecord service event =>
      producePieces service event ++ [.code "(\x7b\x7d);"]
  | .openRecord service event =>
      producePieces service event ++ [.code "(\x7b"]
  | .field name value => (fieldLine options (name, value)).pieces
  | .closeRecord => [.code "\x7d);"]
  | .finish => [.code "return;"]
  | .separator => []

/-- The characters of a line of some form, without indentation. -/
def text (options : RenderOptions) (form : LineForm) : List Char :=
  (form.pieces options).flatMap Piece.text

section

variable (options : RenderOptions) (name service event : String)
  (value : Expression)

theorem text_binding :
    text options (.binding name value) =
      options.store.toList ++ ((memberPieces name).flatMap Piece.text ++
        (" = ".toList ++
          ((value.pieces options).flatMap Piece.text ++ ";".toList))) := by
  simp [text, pieces, bindingLine, Line.outermost, Piece.text]

theorem text_field :
    text options (.field name value) =
      (keyPieces name).flatMap Piece.text ++
        (": ".toList ++
          ((value.pieces options).flatMap Piece.text ++ ",".toList)) := by
  simp [text, pieces, fieldLine, Line.outermost, Piece.text]

theorem text_whole :
    text options (.whole service event value) =
      (producePieces service event).flatMap Piece.text ++ '(' ::
        ((value.pieces options).flatMap Piece.text ++ ");".toList) := by
  simp [text, pieces, Piece.text]

theorem text_emptyRecord :
    text options (.emptyRecord service event) =
      (producePieces service event).flatMap Piece.text ++ '(' ::
        "\x7b\x7d);".toList := by
  simp [text, pieces, Piece.text]

theorem text_openRecord :
    text options (.openRecord service event) =
      (producePieces service event).flatMap Piece.text ++ '(' ::
        "\x7b".toList := by
  simp [text, pieces, Piece.text]

end

/-- Whether service and event of a line are identifiers, if it has any. -/
def wellNamed : LineForm → Bool
  | .whole service event _ | .emptyRecord service event
  | .openRecord service event => isIdentifier service && isIdentifier event
  | _ => true

end LineForm

/-- The forms of the lines that hand out an event. -/
def Payload.forms (service event : String) : Payload → List LineForm
  | .whole value => [.whole service event value]
  | .record [] => [.emptyRecord service event]
  | .record fields =>
      .openRecord service event ::
        (fields.map fun field => .field field.1 field.2) ++ [.closeRecord]

mutual

def Statement.forms : Statement → List LineForm
  | .declareVariables bindings =>
      .declaration :: bindings.map fun binding => .binding binding.1 binding.2
  | .branch condition body => .branch condition :: Block.forms body ++ [.close]
  | .scope body => .scope :: Block.forms body ++ [.close]
  | .produce service event payload => payload.forms service event
  | .finish => [.finish]
  | .separator => [.separator]

def Block.forms : List Statement → List LineForm
  | [] => []
  | statement :: rest => statement.forms ++ Block.forms rest

end

mutual

/-- Whether every event that a statement may hand out, and its service, are
identifiers. -/
def Statement.wellNamed : Statement → Bool
  | .branch _ body => Block.wellNamed body
  | .scope body => Block.wellNamed body
  | .produce service event _ => isIdentifier service && isIdentifier event
  | .declareVariables _ | .finish | .separator => true

def Block.wellNamed : List Statement → Bool
  | [] => true
  | statement :: rest => statement.wellNamed && Block.wellNamed rest

end

theorem map_pieces_deeper (lines : List Line) :
    (lines.map Line.deeper).map Line.pieces = lines.map Line.pieces := by
  rw [List.map_map]
  rfl

theorem Payload.map_pieces_lines (options : RenderOptions)
    (service event : String) (payload : Payload) :
    (payload.lines options service event).map Line.pieces =
      (payload.forms service event).map (LineForm.pieces options) := by
  cases payload with
  | whole value => rfl
  | record fields =>
      cases fields with
      | nil => rfl
      | cons field rest =>
          simp [Payload.lines, Payload.forms, LineForm.pieces, Line.outermost,
            Line.deeper]

mutual

theorem Statement.map_pieces_lines (options : RenderOptions)
    (statement : Statement) :
    (statement.lines options).map Line.pieces =
      statement.forms.map (LineForm.pieces options) := by
  cases statement with
  | declareVariables bindings =>
      simp [Statement.lines, Statement.forms, LineForm.pieces, Line.outermost]
  | branch condition body =>
      have inner := Block.map_pieces_lines options body
      simp only [Statement.lines, Statement.forms, List.map_append,
        List.map_cons, map_pieces_deeper, inner]
      rfl
  | scope body =>
      have inner := Block.map_pieces_lines options body
      simp only [Statement.lines, Statement.forms, List.map_append,
        List.map_cons, map_pieces_deeper, inner]
      rfl
  | produce service event payload =>
      exact payload.map_pieces_lines options service event
  | finish => rfl
  | separator => rfl

theorem Block.map_pieces_lines (options : RenderOptions)
    (block : List Statement) :
    (Block.lines options block).map Line.pieces =
      (Block.forms block).map (LineForm.pieces options) := by
  cases block with
  | nil => rfl
  | cons statement rest =>
      have first := Statement.map_pieces_lines options statement
      have others := Block.map_pieces_lines options rest
      simp only [Block.lines, Block.forms, List.map_append, first, others]

end

/-- What the pieces of all forms of a block have in common, the pieces of its
lines have, too. -/
theorem Block.forall_mem_lines {options : RenderOptions}
    {block : List Statement} (property : List Piece → Prop)
    (each : ∀ form ∈ Block.forms block, property (form.pieces options)) :
    ∀ line ∈ Block.lines options block, property line.pieces := by
  intro line inside
  have shown : line.pieces ∈
      (Block.forms block).map (LineForm.pieces options) := by
    rw [← Block.map_pieces_lines]
    exact List.mem_map_of_mem inside
  obtain ⟨form, isForm, shape⟩ := List.mem_map.mp shown
  rw [← shape]
  exact each form isForm

theorem Payload.wellNamed_forms {service event : String} (payload : Payload)
    (named : (isIdentifier service && isIdentifier event) = true) :
    ∀ form ∈ payload.forms service event, form.wellNamed := by
  cases payload with
  | whole value => exact List.forall_mem_singleton.mpr named
  | record fields =>
      cases fields with
      | nil => exact List.forall_mem_singleton.mpr named
      | cons field rest =>
          refine List.forall_mem_append.mpr ⟨?_, ?_⟩
          · refine List.forall_mem_cons.mpr ⟨named, ?_⟩
            exact List.forall_mem_map.mpr fun _ _ => rfl
          · exact List.forall_mem_singleton.mpr rfl

mutual

theorem Statement.wellNamed_forms {statement : Statement}
    (named : statement.wellNamed) :
    ∀ form ∈ statement.forms, form.wellNamed := by
  cases statement with
  | declareVariables bindings =>
      refine List.forall_mem_cons.mpr ⟨rfl, ?_⟩
      exact List.forall_mem_map.mpr fun _ _ => rfl
  | branch condition body =>
      have inner : ∀ form ∈ Block.forms body, form.wellNamed :=
        Block.wellNamed_forms named
      refine List.forall_mem_append.mpr ⟨?_, List.forall_mem_singleton.mpr rfl⟩
      exact List.forall_mem_cons.mpr ⟨rfl, inner⟩
  | scope body =>
      have inner : ∀ form ∈ Block.forms body, form.wellNamed :=
        Block.wellNamed_forms named
      refine List.forall_mem_append.mpr ⟨?_, List.forall_mem_singleton.mpr rfl⟩
      exact List.forall_mem_cons.mpr ⟨rfl, inner⟩
  | produce service event payload => exact payload.wellNamed_forms named
  | finish => exact List.forall_mem_singleton.mpr rfl
  | separator => exact List.forall_mem_singleton.mpr rfl

theorem Block.wellNamed_forms {block : List Statement}
    (named : Block.wellNamed block) :
    ∀ form ∈ Block.forms block, form.wellNamed := by
  cases block with
  | nil => exact List.forall_mem_nil _
  | cons statement rest =>
      have both : statement.wellNamed = true ∧ Block.wellNamed rest = true := by
        simpa [Block.wellNamed] using named
      exact List.forall_mem_append.mpr
        ⟨Statement.wellNamed_forms both.1, Block.wellNamed_forms both.2⟩

end

/-- The characters of each line, the line feed left out. What stands behind the
last line feed is a line if it is not empty. -/
def textLines : List Char → List (List Char)
  | [] => []
  | character :: rest =>
      if character = '\n' then [] :: textLines rest
      else
        match textLines rest with
        | [] => [[character]]
        | line :: others => (character :: line) :: others

theorem textLines_line {line : List Char} (single : '\n' ∉ line)
    (rest : List Char) :
    textLines (line ++ '\n' :: rest) = line :: textLines rest := by
  induction line with
  | nil => rfl
  | cons character others ih =>
      have apart : character ≠ '\n' := fun isFeed => single (by simp [isFeed])
      have singleRest : '\n' ∉ others := fun member => single (by simp [member])
      rw [List.cons_append, textLines, if_neg apart, ih singleRest]

/-- A line that ends where its line feed stands, and does not begin with a space
of its own. -/
structure PlainLine (line : List Char) : Prop where
  single : '\n' ∉ line
  noBlank : line.head? ≠ some ' '

/-- The contents of the lines of a text, without their indentation. -/
def lineContents (text : List Char) : List (List Char) :=
  (textLines text).map (List.dropWhile (· = ' '))

theorem dropWhile_indented {content : List Char} (plain : PlainLine content)
    (width : Nat) :
    (List.replicate width ' ' ++ content).dropWhile (· = ' ') = content := by
  induction width with
  | zero =>
      cases content with
      | nil => rfl
      | cons first rest =>
          have apart : first ≠ ' ' := fun isBlank =>
            plain.noBlank (by simp [isBlank])
          simp [apart]
  | succ width ih => simpa [List.replicate_succ] using ih

theorem lineContents_flatMap_text {indent : Nat} {lines : List Line}
    (plain : ∀ line ∈ lines, PlainLine (line.pieces.flatMap Piece.text)) :
    lineContents (lines.flatMap (Line.text indent)) =
      lines.map fun line => line.pieces.flatMap Piece.text := by
  induction lines with
  | nil => rfl
  | cons line rest ih =>
      obtain ⟨plainFirst, plainRest⟩ := List.forall_mem_cons.mp plain
      have others := ih plainRest
      obtain ⟨depth, pieces⟩ := line
      unfold lineContents at others ⊢
      rw [List.flatMap_cons]
      cases pieces with
      | nil =>
          rw [List.map_cons, ← others]
          rfl
      | cons piece more =>
          have single : '\n' ∉ List.replicate (depth * indent) ' ' ++
              (piece :: more).flatMap Piece.text := by
            simpa using plainFirst.single
          have shape : Line.text indent ⟨depth, piece :: more⟩ =
              (List.replicate (depth * indent) ' ' ++
                (piece :: more).flatMap Piece.text) ++ ['\n'] := rfl
          rw [shape, List.append_assoc, List.singleton_append,
            textLines_line single, List.map_cons, others,
            dropWhile_indented plainFirst, List.map_cons]

end AggregateRules
