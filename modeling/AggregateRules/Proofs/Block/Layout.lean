import AggregateRules.Proofs.Block.Brackets

/-!
# The layout of a block

The lines of a text are the lines of the tree: how many there are and how deep
they stand does not depend on what expressions and names say. A line is indented
by its depth in the tree, and this is the number of braces that are open before
it, outside literals. No bracket is closed that is not the innermost open one,
and all are closed at the end, see `block_layout`.
-/

namespace AggregateRules

def Payload.lineCount : Payload → Nat
  | .whole _ => 1
  | .record [] => 1
  | .record fields => 2 + fields.length

/-- The depths of the lines that hand out an event. -/
def Payload.depths (depth : Nat) : Payload → List (Option Nat)
  | .whole _ => [some depth]
  | .record [] => [some depth]
  | .record fields =>
      some depth :: fields.map (fun _ => some (depth + 1)) ++ [some depth]

theorem Payload.depths_record {fields : List (String × Expression)}
    (nonempty : fields ≠ []) (depth : Nat) :
    Payload.depths depth (.record fields) =
      some depth :: fields.map (fun _ => some (depth + 1)) ++ [some depth] := by
  cases fields with
  | nil => exact absurd rfl nonempty
  | cons field rest => rfl

mutual

/-- The number of lines of a statement. -/
def Statement.lineCount : Statement → Nat
  | .declareVariables bindings => 1 + bindings.length
  | .branch _ body => 2 + Block.lineCount body
  | .scope body => 2 + Block.lineCount body
  | .produce _ _ payload => payload.lineCount
  | .finish => 1
  | .separator => 1

def Block.lineCount : List Statement → Nat
  | [] => 0
  | statement :: rest => statement.lineCount + Block.lineCount rest

end

mutual

/-- The depth of each line of a statement at some depth. The line of a separator
is empty and has none. -/
def Statement.depths (depth : Nat) : Statement → List (Option Nat)
  | .declareVariables bindings =>
      some depth :: bindings.map fun _ => some depth
  | .branch _ body =>
      some depth :: Block.depths (depth + 1) body ++ [some depth]
  | .scope body => some depth :: Block.depths (depth + 1) body ++ [some depth]
  | .produce _ _ payload => payload.depths depth
  | .finish => [some depth]
  | .separator => [none]

def Block.depths (depth : Nat) : List Statement → List (Option Nat)
  | [] => []
  | statement :: rest => statement.depths depth ++ Block.depths depth rest

end

theorem Payload.length_depths (depth : Nat) (payload : Payload) :
    (payload.depths depth).length = payload.lineCount := by
  cases payload with
  | whole value => rfl
  | record fields =>
      cases fields with
      | nil => rfl
      | cons field rest =>
          simp only [depths, lineCount, List.length_append, List.length_cons,
            List.length_map, List.length_nil]
          omega

mutual

theorem Statement.length_depths (depth : Nat) (statement : Statement) :
    (statement.depths depth).length = statement.lineCount := by
  cases statement with
  | declareVariables bindings =>
      simp only [Statement.depths, Statement.lineCount, List.length_cons,
        List.length_map]
      omega
  | branch condition body =>
      have inner := Block.length_depths (depth + 1) body
      simp only [Statement.depths, Statement.lineCount, List.length_append,
        List.length_cons, List.length_nil, inner]
      omega
  | scope body =>
      have inner := Block.length_depths (depth + 1) body
      simp only [Statement.depths, Statement.lineCount, List.length_append,
        List.length_cons, List.length_nil, inner]
      omega
  | produce service event payload => exact payload.length_depths depth
  | finish => rfl
  | separator => rfl

theorem Block.length_depths (depth : Nat) (block : List Statement) :
    (Block.depths depth block).length = Block.lineCount block := by
  cases block with
  | nil => rfl
  | cons statement rest =>
      have first := Statement.length_depths depth statement
      have others := Block.length_depths depth rest
      rw [Block.depths, Block.lineCount, List.length_append, first, others]

end

theorem Statement.lineCount_pos (statement : Statement) :
    0 < statement.lineCount := by
  cases statement with
  | produce service event payload =>
      cases payload with
      | whole value => exact Nat.one_pos
      | record fields =>
          cases fields with
          | nil => exact Nat.one_pos
          | cons field rest => exact Nat.add_pos_left Nat.two_pos _
  | declareVariables bindings => exact Nat.add_pos_left Nat.one_pos _
  | branch | scope => exact Nat.add_pos_left Nat.two_pos _
  | finish | separator => exact Nat.one_pos

theorem Block.lineCount_eq_zero_iff {block : List Statement} :
    Block.lineCount block = 0 ↔ block = [] := by
  cases block with
  | nil => exact iff_of_true rfl rfl
  | cons statement rest =>
      have positive := statement.lineCount_pos
      refine iff_of_false ?_ (List.cons_ne_nil _ _)
      rw [Block.lineCount]
      omega

namespace LineForm

/-- Whether a text begins with a character that is no blank, and with a closing
brace exactly if a brace has to be closed. -/
def Begins (form : LineForm) (text : List Char) : Prop :=
  ∃ first rest, text = first :: rest ∧ first ≠ ' ' ∧
    (if first = '}' then 1 else 0) = form.closes.count '{'

theorem begins_of_isIdentifier {form : LineForm} {name : String}
    (identifier : isIdentifier name) (silent : form.closes = [])
    (rest : List Char) : form.Begins (name.toList ++ rest) := by
  obtain ⟨first, others, shape, isName⟩ :=
    exists_cons_of_isIdentifier identifier
  have noBlank : first ≠ ' ' := by
    rintro rfl
    exact absurd isName (by decide)
  have noBrace : first ≠ '}' := by
    rintro rfl
    exact absurd isName (by decide)
  refine ⟨first, others ++ rest, ?_, noBlank, ?_⟩
  · rw [shape, List.cons_append]
  · rw [if_neg noBrace, silent, List.count_nil]

theorem begins_text {options : RenderOptions}
    (store : isIdentifier options.store) {form : LineForm}
    (isLine : form ≠ .separator) : form.Begins (form.text options) := by
  cases form with
  | binding name value => exact begins_of_isIdentifier store rfl _
  | branch condition =>
      obtain ⟨test, negated⟩ := condition
      cases negated with
      | false | true => exact ⟨_, _, rfl, by decide, rfl⟩
  | field name value =>
      simp only [text, pieces, fieldLine, Line.outermost, keyPieces]
      split
      · exact ⟨_, _, rfl, by decide, rfl⟩
      · split
        · next identifier => exact begins_of_isIdentifier identifier rfl _
        · exact ⟨_, _, rfl, by decide, rfl⟩
  | separator => exact absurd rfl isLine
  | declaration | scope | close | whole | emptyRecord | openRecord
  | closeRecord | finish =>
      exact ⟨_, _, rfl, by decide, rfl⟩

/-- The text of a form does not depend on the indentation. -/
theorem text_withIndent (options : RenderOptions) (indent : Nat) :
    text { options with indent := indent } = text options := by
  funext form
  cases form <;> rfl

/-- The line of a form, at the depth of its block. -/
def line (options : RenderOptions) (form : LineForm) : Line :=
  .outermost (form.pieces options)

end LineForm

/-- Whether a line fits the brackets that are open before it, given the depth of
its block. A line with pieces has the depth of the open braces, one of which it
may close itself. -/
inductive Line.Fits (base : Nat) (opened : List Char) (line : Line) :
    Option Nat → Prop where
  | separator :
      line.pieces = [] →
      Fits base opened line none
  | content :
      line.pieces.flatMap Piece.text = first :: rest →
      first ≠ ' ' →
      opened.count '{' = base + line.depth + (if first = '}' then 1 else 0) →
      Fits base opened line (some (base + line.depth))

theorem Line.Fits.deeper {base : Nat} {opened : List Char} {line : Line}
    {depth : Option Nat} (fits : line.Fits (base + 1) opened depth) :
    line.deeper.Fits base opened depth := by
  cases fits with
  | separator isEmpty => exact .separator isEmpty
  | content text noBlank count =>
      have sameDepth : base + 1 + line.depth = base + (line.depth + 1) :=
        Nat.add_right_comm base 1 line.depth
      rw [sameDepth] at count ⊢
      exact .content text noBlank count

/-- What lines with some depths do to the brackets that are open before them,
given the depth of their block. -/
inductive Nests (base : Nat) :
    List Char → List Line → List (Option Nat) → List Char → Prop where
  | nil : Nests base opened [] [] opened
  | cons :
      Line.Fits base opened line depth →
      nest? opened (line.pieces.flatMap Piece.tokens) = some middle →
      Nests base middle rest depths after →
      Nests base opened (line :: rest) (depth :: depths) after

namespace Nests

theorem append {base : Nat} {opened middle after : List Char}
    {first second : List Line} {firstDepths secondDepths : List (Option Nat)}
    (firstNests : Nests base opened first firstDepths middle)
    (secondNests : Nests base middle second secondDepths after) :
    Nests base opened (first ++ second) (firstDepths ++ secondDepths)
      after := by
  induction firstNests with
  | nil => exact secondNests
  | cons fits turned _ ih => exact .cons fits turned (ih secondNests)

/-- The lines of the body of a statement stand one level deeper. -/
theorem deeper {base : Nat} {opened after : List Char} {lines : List Line}
    {depths : List (Option Nat)}
    (nests : Nests (base + 1) opened lines depths after) :
    Nests base opened (lines.map Line.deeper) depths after := by
  induction nests with
  | nil => exact .nil
  | cons fits turned _ ih => exact .cons fits.deeper turned ih

end Nests

/-- The forms of the lines around the body of a statement or a record. -/
inductive LineForm.Encloses : LineForm → LineForm → Prop where
  | branch : Encloses (.branch condition) .close
  | scope : Encloses .scope .close
  | record : Encloses (.openRecord service event) .closeRecord

section

variable {options : RenderOptions} (store : isIdentifier options.store)
  (evaluator : isIdentifier options.evaluator)

include store evaluator

/-- A line closes and opens the brackets of its form, wherever it stands. -/
theorem nests_form (form : LineForm) (named : form.wellNamed)
    (isLine : form ≠ .separator) {base : Nat} {outer after : List Char}
    {rest : List Line} {depths : List (Option Nat)}
    (count : outer.count '{' = base)
    (others : Nests base (form.opens ++ outer) rest depths after) :
    Nests base (form.closes ++ outer) (form.line options :: rest)
      (some base :: depths) after := by
  obtain ⟨first, content, text, noBlank, brace⟩ :=
    LineForm.begins_text store isLine
  have turned := LineForm.turns_pieces store evaluator named outer
  have fits : (form.line options).Fits base (form.closes ++ outer)
      (some base) := by
    refine .content text noBlank ?_
    rw [List.count_append, count, brace]
    exact Nat.add_comm _ _
  exact .cons fits turned others

/-- Lines that neither close nor open anything. -/
theorem nests_silent (lineForm : α → LineForm)
    (silent : ∀ item, (lineForm item).wellNamed ∧
      lineForm item ≠ .separator ∧ (lineForm item).closes = [] ∧
        (lineForm item).opens = [])
    {base : Nat} {outer : List Char} (count : outer.count '{' = base)
    (items : List α) :
    Nests base outer (items.map fun item => (lineForm item).line options)
      (items.map fun _ => some base) outer := by
  induction items with
  | nil => exact .nil
  | cons item rest ih =>
      obtain ⟨named, isLine, closesNone, opensNone⟩ := silent item
      have others : Nests base ((lineForm item).opens ++ outer)
          (rest.map fun item => (lineForm item).line options)
          (rest.map fun _ => some base) outer := by
        rw [opensNone]
        exact ih
      have whole := nests_form store evaluator (lineForm item) named isLine
        count others
      rw [closesNone] at whole
      exact whole

/-- Lines one level deeper, between the line that opens their brace and the one
that closes it. -/
theorem nests_enclosed {opening closing : LineForm}
    (encloses : opening.Encloses closing) (named : opening.wellNamed)
    {base : Nat} {outer : List Char} {lines : List Line}
    {depths : List (Option Nat)} (count : outer.count '{' = base)
    (inner : ∀ opened : List Char, opened.count '{' = base + 1 →
      Nests (base + 1) opened lines depths opened) :
    Nests base outer
      (opening.line options :: lines.map Line.deeper ++ [closing.line options])
      (some base :: depths ++ [some base]) outer := by
  have innerCount : (opening.opens ++ outer).count '{' = base + 1 := by
    cases encloses <;> simpa [LineForm.opens] using count
  have ends : Nests base (opening.opens ++ outer) [closing.line options]
      [some base] outer := by
    cases encloses with
    | branch | scope =>
        exact nests_form store evaluator .close rfl (by simp) count .nil
    | record =>
        exact nests_form store evaluator .closeRecord rfl (by simp) count .nil
  have body := (inner _ innerCount).deeper.append ends
  cases encloses with
  | branch | scope | record =>
      exact nests_form store evaluator _ named (by simp) count body

theorem Payload.nests_lines {service event : String} (payload : Payload)
    (named : (isIdentifier service && isIdentifier event) = true) {base : Nat}
    {outer : List Char} (count : outer.count '{' = base) :
    Nests base outer (payload.lines options service event)
      (payload.depths base) outer := by
  cases payload with
  | whole value =>
      exact nests_form store evaluator (.whole service event value) named
        (by simp) count .nil
  | record fields =>
      by_cases isEmpty : fields = []
      · rw [isEmpty]
        exact nests_form store evaluator (.emptyRecord service event) named
          (by simp) count .nil
      · have around : (LineForm.openRecord service event).Encloses
            .closeRecord := .record
        rw [lines_record isEmpty, depths_record isEmpty]
        refine nests_enclosed store evaluator around named count ?_
        intro opened innerCount
        exact nests_silent store evaluator
          (fun field : String × Expression => .field field.1 field.2)
          (fun field => ⟨rfl, by simp, rfl, rfl⟩) innerCount fields

end

-- The invariant is that as many braces are open around a statement as its depth
-- says. Which brackets these are is left open, so that a body can have more.
mutual

theorem Statement.nests_lines {options : RenderOptions}
    (store : isIdentifier options.store)
    (evaluator : isIdentifier options.evaluator) {statement : Statement}
    (named : statement.wellNamed) {base : Nat} {outer : List Char}
    (count : outer.count '{' = base) :
    Nests base outer (statement.lines options) (statement.depths base)
      outer := by
  cases statement with
  | declareVariables bindings =>
      have others := nests_silent store evaluator
        (fun binding : String × Expression => .binding binding.1 binding.2)
        (fun binding => ⟨rfl, by simp, rfl, rfl⟩) count bindings
      exact nests_form store evaluator .declaration rfl (by simp) count others
  | branch condition body =>
      refine nests_enclosed store evaluator .branch rfl count ?_
      intro opened innerCount
      exact Block.nests_lines store evaluator named innerCount
  | scope body =>
      refine nests_enclosed store evaluator .scope rfl count ?_
      intro opened innerCount
      exact Block.nests_lines store evaluator named innerCount
  | produce service event payload =>
      exact payload.nests_lines store evaluator named count
  | finish => exact nests_form store evaluator .finish rfl (by simp) count .nil
  | separator => exact .cons (.separator rfl) rfl .nil

theorem Block.nests_lines {options : RenderOptions}
    (store : isIdentifier options.store)
    (evaluator : isIdentifier options.evaluator) {block : List Statement}
    (named : Block.wellNamed block) {base : Nat} {outer : List Char}
    (count : outer.count '{' = base) :
    Nests base outer (Block.lines options block) (Block.depths base block)
      outer := by
  cases block with
  | nil => exact .nil
  | cons statement rest =>
      have both : statement.wellNamed = true ∧ Block.wellNamed rest = true := by
        simpa [Block.wellNamed] using named
      exact (Statement.nests_lines store evaluator both.1 count).append
        (Block.nests_lines store evaluator both.2 count)

end

namespace Line

/-- The characters of a line without its line feed. -/
def shown (indent : Nat) (line : Line) : List Char :=
  match line.pieces with
  | [] => []
  | pieces =>
      List.replicate (line.depth * indent) ' ' ++ pieces.flatMap Piece.text

theorem text_eq (indent : Nat) (line : Line) :
    line.text indent = line.shown indent ++ ['\n'] := by
  obtain ⟨depth, pieces⟩ := line
  cases pieces <;> rfl

theorem newline_notMem_shown {line : Line}
    (single : '\n' ∉ line.pieces.flatMap Piece.text) (indent : Nat) :
    '\n' ∉ line.shown indent := by
  obtain ⟨depth, pieces⟩ := line
  cases pieces with
  | nil => exact List.not_mem_nil
  | cons piece more =>
      have shape : shown indent ⟨depth, piece :: more⟩ =
          List.replicate (depth * indent) ' ' ++
            (piece :: more).flatMap Piece.text := rfl
      rw [shape, List.mem_append]
      rintro (blank | inside)
      · exact absurd (List.eq_of_mem_replicate blank) (by decide)
      · exact single inside

theorem textLines_flatMap_text {lines : List Line}
    (clean : ∀ line ∈ lines, line.pieces.all Piece.clean) (indent : Nat) :
    textLines (lines.flatMap (text indent)) = lines.map (shown indent) := by
  induction lines with
  | nil => rfl
  | cons line rest ih =>
      obtain ⟨first, others⟩ := List.forall_mem_cons.mp clean
      have single := newline_notMem_of_clean first
      rw [List.flatMap_cons, text_eq, List.append_assoc, List.singleton_append,
        textLines_line (newline_notMem_shown single indent), ih others,
        List.map_cons]

/-- Indentation and line feeds are no brackets. -/
theorem nest?_tokens (opened : List Char) (indent : Nat) (line : Line) :
    nest? opened (line.tokens indent) =
      nest? opened (line.pieces.flatMap Piece.tokens) := by
  obtain ⟨depth, pieces⟩ := line
  cases pieces with
  | nil => rfl
  | cons piece more =>
      have blanks : ∀ character ∈ List.replicate (depth * indent) ' ',
          isPlain character := by
        intro character inside
        rw [List.eq_of_mem_replicate inside]
        rfl
      have shape : tokens indent ⟨depth, piece :: more⟩ =
          (List.replicate (depth * indent) ' ').map .code ++
            (piece :: more).flatMap Piece.tokens ++ [.code '\n'] := rfl
      rw [shape, nest?_append, nest?_append, nest?_code blanks,
        Option.bind_some]
      cases nest? opened ((piece :: more).flatMap Piece.tokens) <;> rfl

end Line

namespace Nests

variable {base : Nat} {opened after : List Char} {lines : List Line}
  {depths : List (Option Nat)}

theorem length_eq (nests : Nests base opened lines depths after) :
    lines.length = depths.length := by
  induction nests with
  | nil => rfl
  | cons _ _ _ ih => rw [List.length_cons, List.length_cons, ih]

theorem nest?_lines (nests : Nests base opened lines depths after)
    (indent : Nat) :
    nest? opened (lines.flatMap (Line.tokens indent)) = some after := by
  induction nests with
  | nil => rfl
  | cons _ turned _ ih =>
      rw [List.flatMap_cons, nest?_append, Line.nest?_tokens, turned,
        Option.bind_some, ih]

/-- A line fits what is open behind the lines before it. -/
theorem fits (nests : Nests base opened lines depths after) (indent : Nat)
    {index : Nat} {line : Line} {depth : Option Nat}
    (isLine : lines[index]? = some line)
    (isDepth : depths[index]? = some depth) :
    ∃ middle,
      nest? opened ((lines.take index).flatMap (Line.tokens indent)) =
        some middle ∧ line.Fits base middle depth := by
  induction nests generalizing index with
  | nil => cases isLine
  | @cons opened first firstDepth _ _ _ _ firstFits turned _ ih =>
      cases index with
      | zero =>
          cases isLine
          cases isDepth
          exact ⟨opened, rfl, firstFits⟩
      | succ index =>
          obtain ⟨middle, nested, fits⟩ := ih isLine isDepth
          refine ⟨middle, ?_, fits⟩
          rw [List.take_succ_cons, List.flatMap_cons, nest?_append,
            Line.nest?_tokens, turned, Option.bind_some, nested]

end Nests

/-- Whether a line is laid out for its depth, given the text before it. A line
without a depth is empty. Any other one is indented by its depth, which is the
number of braces that are open before it, without the one that it closes. -/
inductive LaidOut (indent : Nat) (before : List Char) :
    Option Nat → List Char → Prop where
  | empty : LaidOut indent before none []
  | indented :
      first ≠ ' ' →
      openBraces? before = some (depth + if first = '}' then 1 else 0) →
      LaidOut indent before (some depth)
        (List.replicate (indent * depth) ' ' ++ first :: rest)

/-- Lines one behind the other, each with its line feed. -/
def joinLines (lines : List (List Char)) : List Char :=
  lines.flatMap (· ++ ['\n'])

/-- The layout of a text of a block: its lines are the lines of the tree, each
laid out for its depth, and its brackets match. -/
structure HasLayout (indent : Nat) (block : Block) (text : List Char) :
    Prop where
  lines_end : text = joinLines (textLines text)
  count : (textLines text).length = Block.lineCount block
  depths : (textLines text).length = (Block.depths 0 block).length
  laidOut : ∀ index line depth,
    (textLines text)[index]? = some line →
    (Block.depths 0 block)[index]? = some depth →
    LaidOut indent (joinLines ((textLines text).take index)) depth line
  brackets : BracketsMatch text

theorem getLast?_joinLines {lines : List (List Char)} (nonempty : lines ≠ []) :
    (joinLines lines).getLast? = some '\n' := by
  rw [← List.dropLast_concat_getLast nonempty, joinLines, List.flatMap_append,
    List.flatMap_singleton, ← List.append_assoc, List.getLast?_concat]

theorem joinLines_map_shown (indent : Nat) (lines : List Line) :
    joinLines (lines.map (Line.shown indent)) =
      lines.flatMap (Line.text indent) := by
  have text : Line.text indent = fun line => line.shown indent ++ ['\n'] :=
    funext (Line.text_eq indent)
  rw [joinLines, List.flatMap_map, text]

theorem Line.Fits.laidOut {opened before : List Char} {line : Line}
    {depth : Option Nat} (fits : line.Fits 0 opened depth)
    (count : openBraces? before = some (opened.count '{')) (indent : Nat) :
    LaidOut indent before depth (line.shown indent) := by
  obtain ⟨lineDepth, pieces⟩ := line
  cases fits with
  | separator isEmpty =>
      cases isEmpty
      exact .empty
  | @content first rest text noBlank braces =>
      cases pieces with
      | nil => cases text
      | cons piece more =>
          have shape : Line.shown indent ⟨lineDepth, piece :: more⟩ =
              List.replicate (lineDepth * indent) ' ' ++
                (piece :: more).flatMap Piece.text := rfl
          have width : lineDepth * indent = indent * (0 + lineDepth) := by
            rw [Nat.zero_add, Nat.mul_comm]
          rw [braces] at count
          rw [shape, text, width]
          exact .indented noBlank count

section

variable {options : RenderOptions} (store : isIdentifier options.store)
  (evaluator : isIdentifier options.evaluator)

include store evaluator

theorem Block.hasLayout {block : Block} (named : Block.wellNamed block) :
    HasLayout options.indent block (Block.text options block) := by
  have clean := Block.clean_lines store evaluator named
  have nests : Nests 0 [] (Block.lines options block) (Block.depths 0 block)
      [] := Block.nests_lines store evaluator named rfl
  have shown : textLines (Block.text options block) =
      (Block.lines options block).map (Line.shown options.indent) :=
    Line.textLines_flatMap_text clean options.indent
  have depths : (textLines (Block.text options block)).length =
      (Block.depths 0 block).length := by
    rw [shown, List.length_map, nests.length_eq]
  refine ⟨?_, ?_, depths, ?_, ?_⟩
  · rw [shown, joinLines_map_shown]
    rfl
  · rw [depths, Block.length_depths]
  · intro index text depth isText isDepth
    rw [shown, List.getElem?_map] at isText
    obtain ⟨line, isLine, rfl⟩ := Option.map_eq_some_iff.mp isText
    obtain ⟨opened, nested, fits⟩ := nests.fits options.indent isLine isDepth
    have cleanBefore : ∀ line ∈ (Block.lines options block).take index,
        line.pieces.all Piece.clean = true := fun line inside =>
      clean line (List.mem_of_mem_take inside)
    have scanned := Line.tokens?_flatMap_text cleanBefore options.indent
    rw [shown, ← List.map_take, joinLines_map_shown]
    refine fits.laidOut ?_ options.indent
    simp [openBraces?, scanned, nested]
  · exact ⟨_, Line.tokens?_flatMap_text clean options.indent,
      nests.nest?_lines options.indent⟩

/-- The text of a block is laid out as the tree is, whatever expressions and
names say. It is empty exactly if the block is, and otherwise its last line has
its line feed, too; each statement has its lines at its depth, and all brackets
match. So another indentation changes nothing but the blanks at the beginning of
the lines. -/
theorem block_layout :
    (∀ block, Block.wellNamed block →
      (Block.render options block = "" ↔ block = []) ∧
        (block ≠ [] →
          (Block.render options block).toList.getLast? = some '\n') ∧
        HasLayout options.indent block (Block.render options block).toList) ∧
      ∀ block indent, Block.wellNamed block →
        lineContents
            (Block.render { options with indent := indent } block).toList =
          lineContents (Block.render options block).toList := by
  constructor
  · intro block named
    have layout := Block.hasLayout store evaluator named
    have ends : block ≠ [] →
        (Block.text options block).getLast? = some '\n' := by
      intro nonempty
      rw [layout.lines_end]
      apply getLast?_joinLines
      intro noLines
      have count := layout.count
      rw [noLines] at count
      exact nonempty (Block.lineCount_eq_zero_iff.mp count.symm)
    rw [Block.render, String.toList_ofList]
    refine ⟨⟨fun isEmpty => ?_, ?_⟩, ends, layout⟩
    · refine Classical.byContradiction fun nonempty => ?_
      have noText : Block.text options block = [] := by
        simpa using isEmpty
      have last := ends nonempty
      rw [noText] at last
      cases last
    · rintro rfl
      rfl
  · intro block indent named
    have widened := @Block.lineContents_text
      { options with indent := indent } store evaluator block named
    have plain := Block.lineContents_text store evaluator named
    rw [Block.render, Block.render, String.toList_ofList, String.toList_ofList,
      widened, plain, LineForm.text_withIndent]

end

/-- Code in the strings of a block has no influence on its layout. -/
theorem misleading_block_layout :
    (Block.render Sample.keywordOptions
        Sample.misleadingBlock).toList.getLast? = some '\n' ∧
      HasLayout 0 Sample.misleadingBlock
        (Block.render Sample.keywordOptions Sample.misleadingBlock).toList ∧
      lineContents
          (Block.render { Sample.keywordOptions with indent := 3 }
            Sample.misleadingBlock).toList =
        lineContents
          (Block.render Sample.keywordOptions Sample.misleadingBlock).toList ∧
      Block.lineCount Sample.misleadingBlock = 14 ∧
      Block.depths 0 Sample.misleadingBlock =
        [some 0, some 0, some 0, some 0, some 1, some 1, some 1, some 2, some 2,
          some 2, some 1, none, some 0, some 0] := by
  have layout := @block_layout Sample.keywordOptions (by decide) (by decide)
  have named : Block.wellNamed Sample.misleadingBlock := by decide
  obtain ⟨-, ends, laidOut⟩ := layout.1 Sample.misleadingBlock named
  refine ⟨ends (by decide), laidOut, ?_, by decide, by decide⟩
  exact layout.2 Sample.misleadingBlock 3 named

end AggregateRules
