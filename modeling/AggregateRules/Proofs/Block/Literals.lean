import AggregateRules.Proofs.Block.Reading

/-!
# Literals in the text of a block

Read from left to right, a text falls into code and literals. No string of a
block ends its literal early or becomes part of the code: the literals in the
text are exactly the strings of the block in their order, and the code around
them does not depend on what the expressions say, see `literals_hold_strings`.
-/

namespace AggregateRules

/-- A part of a text: a character of code, or a literal with the string that it
stands for. -/
inductive Token where
  | code (character : Char)
  | literal (value : String)
  deriving DecidableEq

namespace Token

/-- The string of a token, if it is a literal. -/
def strings : Token → List String
  | .code _ => []
  | .literal value => [value]

/-- The characters of a token, with nothing between the quotes of a literal. -/
def blanked : Token → List Char
  | .code character => [character]
  | .literal _ => ['"', '"']

theorem flatMap_strings_code (text : List Char) :
    (text.map code).flatMap strings = [] := by
  induction text with
  | nil => rfl
  | cons character rest ih => exact ih

end Token

/-- The tokens of a text. A quote in the code begins a literal, which is read by
the rules for strings and ends at its closing quote. There are none if a literal
breaks these rules or is still open at the end. -/
def tokens? (text : List Char) : Option (List Token) :=
  match text with
  | [] => some []
  | character :: rest =>
      if character = '"' then
        match _read : Json.quoted? (character :: rest) with
        | none => none
        | some (value, behind) => (tokens? behind).map (.literal value :: ·)
      else (tokens? rest).map (.code character :: ·)
termination_by text.length
decreasing_by
  · exact Json.length_of_quoted? _read
  · exact Nat.lt_succ_self _

/-- A text with all its literals blanked out. -/
def blankLiterals? (text : List Char) : Option (List Char) :=
  (tokens? text).map (List.flatMap Token.blanked)

/-- Whether a text is scanned into some tokens, whatever comes behind it. -/
def Scans (text : List Char) (tokens : List Token) : Prop :=
  ∀ rest, tokens? (text ++ rest) = (tokens? rest).map (tokens ++ ·)

namespace Scans

theorem nil : Scans [] [] := by
  intro rest
  simp

theorem append {first second : List Char}
    {firstTokens secondTokens : List Token}
    (firstScans : Scans first firstTokens)
    (secondScans : Scans second secondTokens) :
    Scans (first ++ second) (firstTokens ++ secondTokens) := by
  intro rest
  rw [List.append_assoc, firstScans, secondScans, Option.map_map]
  congr 1
  funext tokens
  exact (List.append_assoc _ _ _).symm

theorem flatMap {items : List α} {text : α → List Char}
    {tokens : α → List Token}
    (each : ∀ item ∈ items, Scans (text item) (tokens item)) :
    Scans (items.flatMap text) (items.flatMap tokens) := by
  induction items with
  | nil => exact nil
  | cons item rest ih =>
      obtain ⟨first, others⟩ := List.forall_mem_cons.mp each
      exact first.append (ih others)

theorem character {character : Char} (notQuote : character ≠ '"') :
    Scans [character] [.code character] := by
  intro rest
  rw [List.singleton_append, tokens?, if_neg notQuote]
  rfl

theorem code {code : List Char} (noQuote : '"' ∉ code) :
    Scans code (code.map .code) := by
  induction code with
  | nil => exact nil
  | cons first rest ih =>
      have firstScans : Scans [first] [.code first] :=
        character fun isQuote => noQuote (isQuote ▸ List.mem_cons_self)
      have restScans := ih fun inside => noQuote (List.mem_cons_of_mem _ inside)
      exact firstScans.append restScans

theorem quote (value : String) : Scans (Json.quote value) [.literal value] := by
  intro rest
  have read := Json.quoted?_quote value rest
  rw [Json.quote_append] at read ⊢
  rw [tokens?, if_pos rfl]
  split
  · next none => cases none.symm.trans read
  · next other behind some =>
      cases some.symm.trans read
      rfl

theorem tokens?_eq {text : List Char} {tokens : List Token}
    (scans : Scans text tokens) : tokens? text = some tokens := by
  have whole := scans []
  rw [List.append_nil] at whole
  rw [whole, tokens?]
  simp

end Scans

namespace Piece

def strings : Piece → List String
  | .code _ => []
  | .literal value => [value]

def tokens : Piece → List Token
  | .code text => text.toList.map .code
  | .literal value => [.literal value]

/-- A piece that holds nothing if it is a literal. -/
def emptied : Piece → Piece
  | .code text => .code text
  | .literal _ => .literal ""

theorem scans_of_clean {piece : Piece} (clean : piece.clean) :
    Scans piece.text piece.tokens := by
  cases piece with
  | code text =>
      apply Scans.code
      intro inside
      exact absurd (List.all_eq_true.mp clean '"' inside) (by decide)
  | literal value => exact Scans.quote value

theorem flatMap_strings_tokens (piece : Piece) :
    piece.tokens.flatMap Token.strings = piece.strings := by
  cases piece with
  | code text => exact Token.flatMap_strings_code text.toList
  | literal value => rfl

theorem flatMap_blanked_tokens_emptied (piece : Piece) :
    piece.emptied.tokens.flatMap Token.blanked =
      piece.tokens.flatMap Token.blanked := by
  cases piece <;> rfl

end Piece

namespace Line

def tokens (indent : Nat) (line : Line) : List Token :=
  match line.pieces with
  | [] => [.code '\n']
  | pieces =>
      (List.replicate (line.depth * indent) ' ').map .code ++
        pieces.flatMap Piece.tokens ++ [.code '\n']

def strings (line : Line) : List String :=
  line.pieces.flatMap Piece.strings

def emptied (line : Line) : Line :=
  { line with pieces := line.pieces.map Piece.emptied }

theorem scans_of_clean {line : Line} (clean : line.pieces.all Piece.clean)
    (indent : Nat) : Scans (line.text indent) (line.tokens indent) := by
  obtain ⟨depth, pieces⟩ := line
  have ends : Scans ['\n'] [.code '\n'] := Scans.character (by decide)
  cases pieces with
  | nil => exact ends
  | cons piece more =>
      have blanks : '"' ∉ List.replicate (depth * indent) ' ' := by simp
      have inside : Scans ((piece :: more).flatMap Piece.text)
          ((piece :: more).flatMap Piece.tokens) := by
        apply Scans.flatMap
        intro one member
        exact Piece.scans_of_clean (List.all_eq_true.mp clean one member)
      exact ((Scans.code blanks).append inside).append ends

theorem tokens?_flatMap_text {lines : List Line}
    (clean : ∀ line ∈ lines, line.pieces.all Piece.clean) (indent : Nat) :
    tokens? (lines.flatMap (text indent)) =
      some (lines.flatMap (tokens indent)) := by
  apply Scans.tokens?_eq
  apply Scans.flatMap
  intro line inside
  exact scans_of_clean (clean line inside) indent

theorem flatMap_strings_tokens (indent : Nat) (line : Line) :
    (line.tokens indent).flatMap Token.strings = line.strings := by
  obtain ⟨depth, pieces⟩ := line
  cases pieces with
  | nil => rfl
  | cons piece more =>
      have inside : ((piece :: more).flatMap Piece.tokens).flatMap
            Token.strings =
          (piece :: more).flatMap Piece.strings := by
        simp only [List.flatMap_assoc, Piece.flatMap_strings_tokens]
      have ends : [Token.code '\n'].flatMap Token.strings = [] := rfl
      simp only [tokens, strings, List.flatMap_append,
        Token.flatMap_strings_code, inside, ends, List.nil_append,
        List.append_nil]

theorem flatMap_blanked_tokens_emptied (indent : Nat) (line : Line) :
    (line.emptied.tokens indent).flatMap Token.blanked =
      (line.tokens indent).flatMap Token.blanked := by
  obtain ⟨depth, pieces⟩ := line
  cases pieces with
  | nil => rfl
  | cons piece more =>
      have inside : (((piece :: more).map Piece.emptied).flatMap
            Piece.tokens).flatMap Token.blanked =
          ((piece :: more).flatMap Piece.tokens).flatMap Token.blanked := by
        simp only [List.flatMap_map, List.flatMap_assoc,
          Piece.flatMap_blanked_tokens_emptied]
      simp only [tokens, emptied, List.map_cons, List.flatMap_append]
      rw [← inside]
      rfl

theorem strings_outermost_code (text : String) :
    (outermost [.code text]).strings = [] :=
  rfl

theorem flatMap_strings_deeper (lines : List Line) :
    (lines.map deeper).flatMap strings = lines.flatMap strings := by
  rw [List.flatMap_map]
  rfl

theorem map_emptied_deeper (lines : List Line) :
    (lines.map deeper).map emptied = (lines.map emptied).map deeper := by
  rw [List.map_map, List.map_map]
  rfl

end Line

/-- The strings in the line of a variable: its name unless it is an identifier,
and its expression. -/
def bindingStrings (binding : String × Expression) : List String :=
  if isIdentifier binding.1 then [binding.2.source]
  else [binding.1, binding.2.source]

/-- The strings in the line of a field. The name that sets the prototype of an
object is quoted although it is an identifier. -/
def fieldStrings (field : String × Expression) : List String :=
  if isIdentifier field.1 ∧ field.1 ≠ prototypeKey then [field.2.source]
  else [field.1, field.2.source]

def Payload.strings : Payload → List String
  | .whole value => [value.source]
  | .record fields => fields.flatMap fieldStrings

mutual

/-- The strings of a statement that are written as literals, in the order of the
text. -/
def Statement.strings : Statement → List String
  | .declareVariables bindings => bindings.flatMap bindingStrings
  | .branch condition body => condition.test.source :: Block.strings body
  | .scope body => Block.strings body
  | .produce _ _ payload => payload.strings
  | .finish | .separator => []

def Block.strings : List Statement → List String
  | [] => []
  | statement :: rest => statement.strings ++ Block.strings rest

end

theorem strings_bindingLine (options : RenderOptions)
    (binding : String × Expression) :
    (bindingLine options binding).strings = bindingStrings binding := by
  obtain ⟨name, value⟩ := binding
  unfold bindingLine bindingStrings memberPieces
  split
  · rfl
  · rfl

theorem strings_fieldLine (options : RenderOptions)
    (field : String × Expression) :
    (fieldLine options field).strings = fieldStrings field := by
  obtain ⟨name, value⟩ := field
  unfold fieldLine fieldStrings keyPieces
  by_cases isPrototype : name = prototypeKey
  · simp only [isPrototype, ne_eq, not_true, and_false, if_true, if_false]
    rfl
  · simp only [isPrototype, ne_eq, not_false_eq_true, and_true, if_false]
    split
    · rfl
    · rfl

theorem strings_conditionLine (options : RenderOptions)
    (condition : Condition) :
    (condition.line options).strings = [condition.test.source] := by
  obtain ⟨test, negated⟩ := condition
  cases negated <;> rfl

/-- The strings of a list of names with expressions, each on its line. -/
theorem flatMap_strings_map {lines : α → Line} {strings : α → List String}
    (each : ∀ item, (lines item).strings = strings item) (items : List α) :
    (items.map lines).flatMap Line.strings = items.flatMap strings := by
  rw [List.flatMap_map]
  simp only [each]

theorem Payload.lines_record {fields : List (String × Expression)}
    (nonempty : fields ≠ []) (options : RenderOptions)
    (service event : String) :
    Payload.lines options service event (.record fields) =
      .outermost (producePieces service event ++ [.code "(\x7b"]) ::
        (fields.map (fieldLine options)).map Line.deeper ++
        [.outermost [.code "\x7d);"]] := by
  rw [List.map_map]
  cases fields with
  | nil => exact absurd rfl nonempty
  | cons field rest => rfl

theorem Payload.flatMap_strings_lines (options : RenderOptions)
    (service event : String) (payload : Payload) :
    (payload.lines options service event).flatMap Line.strings =
      payload.strings := by
  cases payload with
  | whole value => rfl
  | record fields =>
      by_cases isEmpty : fields = []
      · rw [isEmpty]
        rfl
      · have inside := flatMap_strings_map (strings_fieldLine options) fields
        rw [lines_record isEmpty, List.flatMap_append, List.flatMap_cons,
          Line.flatMap_strings_deeper, inside, Payload.strings]
        exact List.append_nil _

mutual

theorem Statement.flatMap_strings_lines (options : RenderOptions)
    (statement : Statement) :
    (statement.lines options).flatMap Line.strings = statement.strings := by
  cases statement with
  | declareVariables bindings =>
      exact flatMap_strings_map (strings_bindingLine options) bindings
  | branch condition body =>
      have inner := Block.flatMap_strings_lines options body
      rw [Statement.lines, List.flatMap_append, List.flatMap_cons,
        List.flatMap_singleton, strings_conditionLine,
        Line.flatMap_strings_deeper, inner, Line.strings_outermost_code,
        List.append_nil, Statement.strings, List.singleton_append]
  | scope body =>
      have inner := Block.flatMap_strings_lines options body
      rw [Statement.lines, List.flatMap_append, List.flatMap_cons,
        List.flatMap_singleton, Line.strings_outermost_code,
        Line.flatMap_strings_deeper, inner, Line.strings_outermost_code,
        List.append_nil, Statement.strings, List.nil_append]
  | produce service event payload =>
      exact payload.flatMap_strings_lines options service event
  | finish => rfl
  | separator => rfl

theorem Block.flatMap_strings_lines (options : RenderOptions)
    (block : List Statement) :
    (Block.lines options block).flatMap Line.strings = Block.strings block := by
  cases block with
  | nil => rfl
  | cons statement rest =>
      have first := Statement.flatMap_strings_lines options statement
      have others := Block.flatMap_strings_lines options rest
      rw [Block.lines, List.flatMap_append, first, others, Block.strings]

end

/-- Names with expressions that say nothing. -/
def withoutExpressions (named : List (String × Expression)) :
    List (String × Expression) :=
  named.map fun (name, _) => (name, ⟨""⟩)

def Condition.withoutExpression (condition : Condition) : Condition :=
  { condition with test := ⟨""⟩ }

def Payload.withoutExpressions : Payload → Payload
  | .whole _ => .whole ⟨""⟩
  | .record fields => .record (AggregateRules.withoutExpressions fields)

mutual

/-- A statement in which all expressions are replaced by one that says nothing.
Statements that are equal then differ in the contents of their expressions
alone. -/
def Statement.withoutExpressions : Statement → Statement
  | .declareVariables bindings =>
      .declareVariables (AggregateRules.withoutExpressions bindings)
  | .branch condition body =>
      .branch condition.withoutExpression (Block.withoutExpressions body)
  | .scope body => .scope (Block.withoutExpressions body)
  | .produce service event payload =>
      .produce service event payload.withoutExpressions
  | .finish => .finish
  | .separator => .separator

def Block.withoutExpressions : List Statement → List Statement
  | [] => []
  | statement :: rest =>
      statement.withoutExpressions :: Block.withoutExpressions rest

end

mutual

theorem Statement.wellNamed_withoutExpressions (statement : Statement) :
    statement.withoutExpressions.wellNamed = statement.wellNamed := by
  cases statement with
  | branch condition body => exact Block.wellNamed_withoutExpressions body
  | scope body => exact Block.wellNamed_withoutExpressions body
  | declareVariables | produce | finish | separator => rfl

theorem Block.wellNamed_withoutExpressions (block : List Statement) :
    Block.wellNamed (Block.withoutExpressions block) =
      Block.wellNamed block := by
  cases block with
  | nil => rfl
  | cons statement rest =>
      have first := Statement.wellNamed_withoutExpressions statement
      have others := Block.wellNamed_withoutExpressions rest
      rw [Block.withoutExpressions, Block.wellNamed, first, others,
        Block.wellNamed]

end

theorem emptied_bindingLine (options : RenderOptions) (name : String)
    (left right : Expression) :
    (bindingLine options (name, left)).emptied =
      (bindingLine options (name, right)).emptied := by
  unfold bindingLine memberPieces
  split <;> rfl

theorem emptied_fieldLine (options : RenderOptions) (name : String)
    (left right : Expression) :
    (fieldLine options (name, left)).emptied =
      (fieldLine options (name, right)).emptied := by
  unfold fieldLine keyPieces
  split
  · rfl
  · split <;> rfl

theorem emptied_conditionLine (options : RenderOptions)
    (condition : Condition) :
    (condition.withoutExpression.line options).emptied =
      (condition.line options).emptied := by
  obtain ⟨test, negated⟩ := condition
  cases negated <;> rfl

theorem map_emptied_withoutExpressions
    {line : String × Expression → Line}
    (alike : ∀ name left right,
      (line (name, left)).emptied = (line (name, right)).emptied)
    (named : List (String × Expression)) :
    ((withoutExpressions named).map line).map Line.emptied =
      (named.map line).map Line.emptied := by
  simp only [withoutExpressions, List.map_map]
  apply List.map_congr_left
  rintro ⟨name, value⟩ _
  exact alike name ⟨""⟩ value

theorem Payload.map_emptied_lines (options : RenderOptions)
    (service event : String) (payload : Payload) :
    (payload.withoutExpressions.lines options service event).map Line.emptied =
      (payload.lines options service event).map Line.emptied := by
  cases payload with
  | whole value => rfl
  | record fields =>
      by_cases isEmpty : fields = []
      · rw [isEmpty]
        rfl
      · have stillFields : AggregateRules.withoutExpressions fields ≠ [] := by
          simpa [AggregateRules.withoutExpressions] using isEmpty
        have inside := map_emptied_withoutExpressions
          (emptied_fieldLine options) fields
        rw [withoutExpressions, lines_record stillFields, lines_record isEmpty]
        simp only [List.map_append, List.map_cons, Line.map_emptied_deeper,
          inside]

mutual

theorem Statement.map_emptied_lines (options : RenderOptions)
    (statement : Statement) :
    (statement.withoutExpressions.lines options).map Line.emptied =
      (statement.lines options).map Line.emptied := by
  cases statement with
  | declareVariables bindings =>
      have inside := map_emptied_withoutExpressions
        (emptied_bindingLine options) bindings
      simp only [Statement.withoutExpressions, Statement.lines, List.map_cons,
        inside]
  | branch condition body =>
      have inner := Block.map_emptied_lines options body
      simp only [Statement.withoutExpressions, Statement.lines, List.map_append,
        List.map_cons, emptied_conditionLine, Line.map_emptied_deeper, inner]
  | scope body =>
      have inner := Block.map_emptied_lines options body
      simp only [Statement.withoutExpressions, Statement.lines, List.map_append,
        List.map_cons, Line.map_emptied_deeper, inner]
  | produce service event payload =>
      exact payload.map_emptied_lines options service event
  | finish => rfl
  | separator => rfl

theorem Block.map_emptied_lines (options : RenderOptions)
    (block : List Statement) :
    (Block.lines options (Block.withoutExpressions block)).map Line.emptied =
      (Block.lines options block).map Line.emptied := by
  cases block with
  | nil => rfl
  | cons statement rest =>
      have first := Statement.map_emptied_lines options statement
      have others := Block.map_emptied_lines options rest
      simp only [Block.withoutExpressions, Block.lines, List.map_append, first,
        others]

end

section

variable {options : RenderOptions} (store : isIdentifier options.store)
  (evaluator : isIdentifier options.evaluator)

include store evaluator

theorem Block.clean_lines {block : Block} (named : Block.wellNamed block) :
    ∀ line ∈ Block.lines options block,
      line.pieces.all Piece.clean = true := by
  apply Block.forall_mem_lines fun pieces => pieces.all Piece.clean = true
  intro form isForm
  exact LineForm.clean_pieces store evaluator
    (Block.wellNamed_forms named form isForm)

theorem Block.tokens?_render {block : Block} (named : Block.wellNamed block) :
    tokens? (Block.render options block).toList =
      some ((Block.lines options block).flatMap
        (Line.tokens options.indent)) := by
  rw [Block.render, String.toList_ofList, Block.text]
  exact Line.tokens?_flatMap_text (Block.clean_lines store evaluator named)
    options.indent

theorem Block.blankLiterals?_render {block : Block}
    (named : Block.wellNamed block) :
    blankLiterals? (Block.render options block).toList =
      some (((Block.lines options block).map Line.emptied).flatMap fun line =>
        (line.tokens options.indent).flatMap Token.blanked) := by
  rw [blankLiterals?, Block.tokens?_render store evaluator named]
  simp only [Option.map_some, List.flatMap_assoc, List.flatMap_map,
    Line.flatMap_blanked_tokens_emptied]

/-- No string can leave its literal. The text of a block is scanned without
fault into code and literals, and the literals are the strings of the block,
character for character and in their order. Blocks that differ in the contents
of their expressions alone have the same text around their literals. -/
theorem literals_hold_strings :
    (∀ block, Block.wellNamed block →
      ∃ tokens, tokens? (Block.render options block).toList = some tokens ∧
        tokens.flatMap Token.strings = Block.strings block) ∧
    ∀ left right, Block.wellNamed left →
      Block.withoutExpressions left = Block.withoutExpressions right →
      ∃ text,
        blankLiterals? (Block.render options left).toList = some text ∧
          blankLiterals? (Block.render options right).toList = some text := by
  constructor
  · intro block named
    refine ⟨_, Block.tokens?_render store evaluator named, ?_⟩
    simp only [List.flatMap_assoc, Line.flatMap_strings_tokens,
      Block.flatMap_strings_lines]
  · intro left right leftNamed alike
    have rightNamed : Block.wellNamed right = true := by
      rw [← Block.wellNamed_withoutExpressions, ← alike,
        Block.wellNamed_withoutExpressions]
      exact leftNamed
    have sameLines : (Block.lines options left).map Line.emptied =
        (Block.lines options right).map Line.emptied := by
      rw [← Block.map_emptied_lines, alike, Block.map_emptied_lines]
    refine ⟨_, Block.blankLiterals?_render store evaluator leftNamed, ?_⟩
    rw [sameLines]
    exact Block.blankLiterals?_render store evaluator rightNamed

end

/-- The code in `Sample.misleadingBlock` stays in its literals, and the text
around them is the same when the expressions say nothing. -/
theorem misleading_literals_hold_strings :
    (∃ tokens,
      tokens? (Block.render Sample.keywordOptions
          Sample.misleadingBlock).toList = some tokens ∧
        tokens.flatMap Token.strings =
          ["const x", "\x7d", "\", if);\nreturn;", "true)) \x7b", "__proto__",
            "a", "\": ", "\\", "", "1\", if);\nreturn;"]) ∧
      ∃ text,
        blankLiterals? (Block.render Sample.keywordOptions
            Sample.misleadingBlock).toList = some text ∧
          blankLiterals? (Block.render Sample.keywordOptions
            (Block.withoutExpressions Sample.misleadingBlock)).toList =
            some text := by
  have hold := @literals_hold_strings Sample.keywordOptions (by decide)
    (by decide)
  have named : Block.wellNamed Sample.misleadingBlock := by decide
  constructor
  · exact hold.1 Sample.misleadingBlock named
  · exact hold.2 Sample.misleadingBlock _ named rfl

end AggregateRules
