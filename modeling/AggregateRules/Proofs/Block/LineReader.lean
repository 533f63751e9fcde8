import AggregateRules.Proofs.Block.LineForm

/-!
# Reading a line

A line is told apart by the word that it begins with and by the character behind
this word, also where the word is a name that could open a statement. The form
of a line is read back from its text, whatever its literals hold, see
`LineForm.read_text`.
-/

namespace AggregateRules

/-- The characters of identifiers. -/
def isNameCharacter (character : Char) : Bool :=
  character.isAlphanum || character == '_' || character == '$'

/-- The name at the beginning of a text, and the text behind it. -/
def readName (text : List Char) : String × List Char :=
  (String.ofList (text.takeWhile isNameCharacter),
    text.dropWhile isNameCharacter)

/-- The text behind some fixed code. -/
def behind : List Char → List Char → Option (List Char)
  | [], text => some text
  | _ :: _, [] => none
  | expected :: more, character :: text =>
      if character = expected then behind more text else none

@[simp] theorem behind_append (code text : List Char) :
    behind code (code ++ text) = some text := by
  induction code with
  | nil => rfl
  | cons character more ih => simpa [behind] using ih

theorem isNameCharacter_of_isIdentifier {name : String}
    (identifier : isIdentifier name) :
    ∀ character ∈ name.toList, isNameCharacter character := by
  unfold isIdentifier at identifier
  split at identifier
  · cases identifier
  · next first rest shape =>
      simp only [Bool.and_eq_true, List.all_eq_true] at identifier
      rw [shape]
      refine List.forall_mem_cons.mpr ⟨?_, identifier.2⟩
      have start := identifier.1
      simp only [isNameCharacter, Char.isAlphanum, Bool.or_eq_true] at start ⊢
      rcases start with (letter | underscore) | dollar
      · exact .inl (.inl (.inl letter))
      · exact .inl (.inr underscore)
      · exact .inr dollar

theorem exists_cons_of_isIdentifier {name : String}
    (identifier : isIdentifier name) :
    ∃ first rest, name.toList = first :: rest ∧ isNameCharacter first := by
  cases shape : name.toList with
  | nil => simp [isIdentifier, shape] at identifier
  | cons first rest =>
      refine ⟨first, rest, rfl, ?_⟩
      exact isNameCharacter_of_isIdentifier identifier first (by simp [shape])

theorem readName_append {name : String} (identifier : isIdentifier name)
    {next : Char} (ends : isNameCharacter next = false) (rest : List Char) :
    readName (name.toList ++ next :: rest) = (name, next :: rest) := by
  have inside := isNameCharacter_of_isIdentifier identifier
  unfold readName
  rw [List.takeWhile_append_of_pos inside, List.dropWhile_append_of_pos inside]
  simp [ends]

theorem readName_cons {next : Char} (ends : isNameCharacter next = false)
    (rest : List Char) :
    readName (next :: rest) = ("", next :: rest) := by
  simp [readName, ends]

theorem noBlank_of_isIdentifier {name : String}
    (identifier : isIdentifier name) (rest : List Char) :
    (name.toList ++ rest).head? ≠ some ' ' := by
  obtain ⟨first, others, shape, isName⟩ :=
    exists_cons_of_isIdentifier identifier
  rw [shape]
  intro isBlank
  cases isBlank
  exact absurd isName (by decide)

/-- The expression whose evaluation stands at the beginning of a text, and the
text behind it. -/
def readEvaluation (options : RenderOptions) (text : List Char) :
    Option (Expression × List Char) := do
  let text ← behind "await ".toList text
  let text ← behind options.evaluator.toList text
  let (source, text) ← Json.quoted? (← behind "(".toList text)
  let text ← behind ", ".toList text
  let text ← behind options.store.toList text
  let text ← behind ")".toList text
  some (⟨source⟩, text)

theorem readEvaluation_append (options : RenderOptions)
    (expression : Expression) (rest : List Char) :
    readEvaluation options
        ((expression.pieces options).flatMap Piece.text ++ rest) =
      some (expression, rest) := by
  unfold readEvaluation Expression.pieces
  simp only [List.flatMap_cons, List.flatMap_nil, List.append_nil, Piece.text,
    List.append_assoc, behind_append, Json.quoted?_quote, Option.bind_eq_bind,
    Option.bind_some]

namespace LineForm

/-- The form of a line that sets a variable, from the text behind its name. -/
def readBinding (options : RenderOptions) (name : String) (text : List Char) :
    Option LineForm := do
  let (value, _) ← readEvaluation options (← behind " = ".toList text)
  some (.binding name value)

def readField (options : RenderOptions) (name : String) (text : List Char) :
    Option LineForm := do
  let (value, _) ← readEvaluation options (← behind ": ".toList text)
  some (.field name value)

/-- The form of a line that opens a branch, from the text behind `if`. -/
def readBranch (options : RenderOptions) : List Char → Option LineForm
  | '(' :: '!' :: '(' :: text => do
      let (test, _) ← readEvaluation options text
      some (.branch ⟨test, true⟩)
  | '(' :: text => do
      let (test, _) ← readEvaluation options text
      some (.branch ⟨test, false⟩)
  | _ => none

def readPayload (options : RenderOptions) (service event : String) :
    List Char → Option LineForm
  | '(' :: '{' :: '}' :: _ => some (.emptyRecord service event)
  | '(' :: '{' :: _ => some (.openRecord service event)
  | '(' :: text => do
      let (value, _) ← readEvaluation options text
      some (.whole service event value)
  | _ => none

def readProduce (options : RenderOptions) (text : List Char) :
    Option LineForm := do
  let (service, text) := readName (← behind "new ".toList text)
  let (event, text) := readName (← behind ".".toList text)
  readPayload options service event text

/-- The form of a line, from the word that it begins with and the text behind
this word. -/
def readBehind (options : RenderOptions) (word : String) :
    List Char → Option LineForm
  | [] => some .separator
  | '{' :: _ => some .scope
  | ['}'] => some .close
  | '}' :: _ => some .closeRecord
  | ';' :: _ => some .finish
  | '.' :: text => readBinding options (readName text).1 (readName text).2
  | ':' :: text => readField options word (':' :: text)
  | '"' :: text => do
      let (name, text) ← Json.quoted? ('"' :: text)
      readField options name text
  | '[' :: text => do
      let (name, text) ← Json.quoted? text
      let text ← behind "]".toList text
      if word = "" then readField options name text
      else readBinding options name text
  | ' ' :: text =>
      if word = "const" then some .declaration
      else if word = "if" then readBranch options text
      else readProduce options text
  | _ => none

def read (options : RenderOptions) (text : List Char) : Option LineForm :=
  readBehind options (readName text).1 (readName text).2

theorem readBinding_append (options : RenderOptions) (name : String)
    (value : Expression) (rest : List Char) :
    readBinding options name
        (" = ".toList ++
          ((value.pieces options).flatMap Piece.text ++ rest)) =
      some (.binding name value) := by
  simp only [readBinding, behind_append, readEvaluation_append,
    Option.bind_eq_bind, Option.bind_some]

theorem readField_append (options : RenderOptions) (name : String)
    (value : Expression) (rest : List Char) :
    readField options name
        (": ".toList ++
          ((value.pieces options).flatMap Piece.text ++ rest)) =
      some (.field name value) := by
  simp only [readField, behind_append, readEvaluation_append,
    Option.bind_eq_bind, Option.bind_some]

theorem read_word {word : String} (identifier : isIdentifier word)
    {next : Char} (ends : isNameCharacter next = false)
    (options : RenderOptions) (rest : List Char) :
    read options (word.toList ++ next :: rest) =
      readBehind options word (next :: rest) := by
  rw [read, readName_append identifier ends]

theorem read_noWord {next : Char} (ends : isNameCharacter next = false)
    (options : RenderOptions) (rest : List Char) :
    read options (next :: rest) = readBehind options "" (next :: rest) := by
  rw [read, readName_cons ends]

theorem read_binding {options : RenderOptions}
    (store : isIdentifier options.store) (name : String) (value : Expression) :
    read options (text options (.binding name value)) =
      some (.binding name value) := by
  have nonempty : options.store ≠ "" := by
    rintro isEmpty
    simp [isEmpty, isIdentifier] at store
  by_cases identifier : isIdentifier name
  · have shape : text options (.binding name value) =
        options.store.toList ++ '.' :: (name.toList ++ ' ' ::
          ("= ".toList ++
            ((value.pieces options).flatMap Piece.text ++ [';']))) := by
      simp [text, pieces, bindingLine, Line.outermost, memberPieces, identifier,
        Piece.text]
    rw [shape, read_word store (by rfl), readBehind,
      readName_append identifier (by rfl)]
    exact readBinding_append options name value [';']
  · have shape : text options (.binding name value) =
        options.store.toList ++ '[' :: (Json.quote name ++
          ("]".toList ++ (" = ".toList ++
            ((value.pieces options).flatMap Piece.text ++ [';'])))) := by
      simp [text, pieces, bindingLine, Line.outermost, memberPieces, identifier,
        Piece.text]
    rw [shape, read_word store (by rfl), readBehind, Json.quoted?_quote]
    simp only [Option.bind_eq_bind, Option.bind_some, behind_append,
      if_neg nonempty, readBinding_append]

theorem read_field (options : RenderOptions) (name : String)
    (value : Expression) :
    read options (text options (.field name value)) =
      some (.field name value) := by
  let evaluation := (value.pieces options).flatMap Piece.text ++ [',']
  by_cases isPrototype : name = prototypeKey
  · have shape : text options (.field name value) =
        '[' :: (Json.quote name ++ ("]".toList ++
          (": ".toList ++ evaluation))) := by
      simp [text, pieces, fieldLine, Line.outermost, keyPieces, isPrototype,
        Piece.text, evaluation]
    rw [shape, read_noWord (by rfl), readBehind, Json.quoted?_quote]
    simp only [Option.bind_eq_bind, Option.bind_some, behind_append, if_true,
      evaluation, readField_append]
  · by_cases identifier : isIdentifier name
    · have shape : text options (.field name value) =
          name.toList ++ ':' :: ' ' :: evaluation := by
        simp [text, pieces, fieldLine, Line.outermost, keyPieces, isPrototype,
          identifier, Piece.text, evaluation]
      rw [shape, read_word identifier (by rfl), readBehind]
      exact readField_append options name value [',']
    · have shape : text options (.field name value) =
          Json.quote name ++ (": ".toList ++ evaluation) := by
        simp [text, pieces, fieldLine, Line.outermost, keyPieces, isPrototype,
          identifier, Piece.text, evaluation]
      have quoted := Json.quoted?_quote name (": ".toList ++ evaluation)
      rw [shape]
      rw [Json.quote, List.cons_append, List.cons_append] at quoted ⊢
      rw [read_noWord (by rfl), readBehind, quoted]
      exact readField_append options name value [',']

theorem readBranch_positive (options : RenderOptions) (test : Expression)
    (rest : List Char) :
    readBranch options
        ('(' :: ((test.pieces options).flatMap Piece.text ++ rest)) =
      some (.branch ⟨test, false⟩) := by
  rw [readBranch, readEvaluation_append]
  · rfl
  · intro more negated
    simp [Expression.pieces, Piece.text] at negated

theorem readBranch_negated (options : RenderOptions) (test : Expression)
    (rest : List Char) :
    readBranch options
        ('(' :: '!' :: '(' ::
          ((test.pieces options).flatMap Piece.text ++ rest)) =
      some (.branch ⟨test, true⟩) := by
  rw [readBranch, readEvaluation_append]
  rfl

theorem read_branch (options : RenderOptions) (condition : Condition) :
    read options (text options (.branch condition)) =
      some (.branch condition) := by
  have isName : isIdentifier "if" = true := rfl
  obtain ⟨test, negated⟩ := condition
  cases negated with
  | false =>
      have shape : text options (.branch ⟨test, false⟩) =
          "if".toList ++ ' ' :: '(' ::
            ((test.pieces options).flatMap Piece.text ++ ") \x7b".toList) := by
        simp [text, pieces, Condition.line, Line.outermost, Piece.text]
      rw [shape, read_word isName (by rfl), readBehind]
      exact readBranch_positive options test _
  | true =>
      have shape : text options (.branch ⟨test, true⟩) =
          "if".toList ++ ' ' :: '(' :: '!' :: '(' ::
            ((test.pieces options).flatMap Piece.text ++
              ")) \x7b".toList) := by
        simp [text, pieces, Condition.line, Line.outermost, Piece.text]
      rw [shape, read_word isName (by rfl), readBehind]
      exact readBranch_negated options test _

theorem read_produce {service event : String}
    (identifiers : (isIdentifier service && isIdentifier event) = true)
    (options : RenderOptions) (rest : List Char) :
    read options ((producePieces service event).flatMap Piece.text ++
        '(' :: rest) =
      readPayload options service event ('(' :: rest) := by
  have isName : isIdentifier "yield" = true := rfl
  have both := (Bool.and_eq_true _ _).mp identifiers
  have shape : (producePieces service event).flatMap Piece.text ++ '(' :: rest =
      "yield".toList ++ ' ' :: ("new ".toList ++
        (service.toList ++ '.' :: (event.toList ++ '(' :: rest))) := by
    simp [producePieces, Piece.text]
  have dotted : '.' :: (event.toList ++ '(' :: rest) =
      ".".toList ++ (event.toList ++ '(' :: rest) := by
    simp
  have serviceRead := readName_append both.1
    (by rfl : isNameCharacter '.' = false) (event.toList ++ '(' :: rest)
  have eventRead := readName_append both.2
    (by rfl : isNameCharacter '(' = false) rest
  rw [shape, read_word isName (by rfl), readBehind, if_neg (by decide),
    if_neg (by decide), readProduce]
  simp only [behind_append, Option.bind_eq_bind, Option.bind_some, serviceRead]
  rw [dotted]
  simp only [behind_append, Option.bind_some, eventRead]

theorem read_whole {service event : String}
    (identifiers : (isIdentifier service && isIdentifier event) = true)
    (options : RenderOptions) (value : Expression) :
    read options (text options (.whole service event value)) =
      some (.whole service event value) := by
  rw [text_whole, read_produce identifiers, readPayload, readEvaluation_append]
  · rfl
  · intro more empty
    simp [Expression.pieces, Piece.text] at empty
  · intro more opened
    simp [Expression.pieces, Piece.text] at opened

/-- The form of a line is read back from its text. -/
theorem read_text {options : RenderOptions} (store : isIdentifier options.store)
    {form : LineForm} (named : form.wellNamed) :
    read options (text options form) = some form := by
  cases form with
  | declaration =>
      have isName : isIdentifier "const" = true := rfl
      have shape : text options .declaration =
          "const".toList ++ ' ' ::
            (options.store.toList ++ " = \x7b\x7d;".toList) := by
        simp [text, pieces, Piece.text]
      rw [shape, read_word isName (by rfl), readBehind, if_pos rfl]
  | binding name value => exact read_binding store name value
  | branch condition => exact read_branch options condition
  | scope => rfl
  | close => rfl
  | whole service event value => exact read_whole named options value
  | emptyRecord service event =>
      rw [text_emptyRecord, read_produce named]
      rfl
  | openRecord service event =>
      rw [text_openRecord, read_produce named]
      rfl
  | field name value => exact read_field options name value
  | closeRecord => rfl
  | finish => rfl
  | separator => rfl

end LineForm

/-- The characters that code consists of where it is no literal. -/
def isCodeCharacter (character : Char) : Bool :=
  isNameCharacter character || " .,:;!=()[]\x7b\x7d".toList.contains character

/-- Whether a piece is a literal or consists of characters of code. -/
def Piece.clean : Piece → Bool
  | .code text => text.toList.all isCodeCharacter
  | .literal _ => true

theorem all_isCodeCharacter_of_isIdentifier {name : String}
    (identifier : isIdentifier name) :
    name.toList.all isCodeCharacter = true := by
  refine List.all_eq_true.mpr fun character inside => ?_
  have isName := isNameCharacter_of_isIdentifier identifier character inside
  simp [isCodeCharacter, isName]

@[simp] theorem clean_memberPieces (name : String) :
    (memberPieces name).all Piece.clean = true := by
  unfold memberPieces
  split
  · next identifier =>
      simp +decide [Piece.clean, all_isCodeCharacter_of_isIdentifier identifier]
  · simp +decide [Piece.clean]

@[simp] theorem clean_keyPieces (name : String) :
    (keyPieces name).all Piece.clean = true := by
  unfold keyPieces
  split
  · simp +decide [Piece.clean]
  · split
    · next identifier =>
        simp [Piece.clean, all_isCodeCharacter_of_isIdentifier identifier]
    · simp [Piece.clean]

/-- Whether a piece stays on its line. -/
def Piece.unbroken (piece : Piece) : Bool :=
  piece.text.all (· != '\n')

theorem Piece.unbroken_of_clean {piece : Piece} (clean : piece.clean) :
    piece.unbroken = true := by
  refine List.all_eq_true.mpr fun character inside => ?_
  simp only [bne_iff_ne]
  rintro rfl
  cases piece with
  | code text =>
      exact absurd (List.all_eq_true.mp clean '\n' inside) (by decide)
  | literal value => exact Json.newline_notMem_quote value inside

theorem newline_notMem_of_clean {pieces : List Piece}
    (clean : pieces.all Piece.clean) :
    '\n' ∉ pieces.flatMap Piece.text := by
  intro member
  obtain ⟨piece, inside, breaks⟩ := List.mem_flatMap.mp member
  have unbroken := piece.unbroken_of_clean (List.all_eq_true.mp clean _ inside)
  exact absurd (List.all_eq_true.mp unbroken '\n' breaks) (by decide)

namespace LineForm

section

variable {options : RenderOptions} (store : isIdentifier options.store)
  (evaluator : isIdentifier options.evaluator)

include store evaluator

theorem clean_evaluation (value : Expression) :
    (value.pieces options).all Piece.clean = true := by
  simp +decide [Expression.pieces, Piece.clean,
    all_isCodeCharacter_of_isIdentifier store,
    all_isCodeCharacter_of_isIdentifier evaluator]

theorem clean_pieces {form : LineForm} (named : form.wellNamed) :
    (form.pieces options).all Piece.clean = true := by
  have storeClean := all_isCodeCharacter_of_isIdentifier store
  have evaluation := clean_evaluation store evaluator
  have produced {service event : String}
      (identifiers : (isIdentifier service && isIdentifier event) = true) :
      (producePieces service event).all Piece.clean = true := by
    have both := (Bool.and_eq_true _ _).mp identifiers
    simp +decide [producePieces, Piece.clean,
      all_isCodeCharacter_of_isIdentifier both.1,
      all_isCodeCharacter_of_isIdentifier both.2]
  cases form with
  | declaration => simp +decide [pieces, Piece.clean, storeClean]
  | binding name value =>
      simp +decide [pieces, bindingLine, Line.outermost, Piece.clean,
        storeClean, evaluation]
  | branch condition =>
      obtain ⟨test, negated⟩ := condition
      cases negated <;>
        simp +decide [pieces, Condition.line, Line.outermost, Piece.clean,
          evaluation]
  | scope => rfl
  | close => rfl
  | whole service event value =>
      simp +decide [pieces, Piece.clean, produced named, evaluation]
  | emptyRecord service event =>
      simp +decide [pieces, Piece.clean, produced named]
  | openRecord service event =>
      simp +decide [pieces, Piece.clean, produced named]
  | field name value =>
      simp +decide [pieces, fieldLine, Line.outermost, Piece.clean, evaluation]
  | closeRecord => rfl
  | finish => rfl
  | separator => rfl

omit evaluator in
theorem noBlank_text (form : LineForm) :
    (text options form).head? ≠ some ' ' := by
  cases form with
  | binding name value => exact noBlank_of_isIdentifier store _
  | branch condition =>
      obtain ⟨test, negated⟩ := condition
      cases negated <;>
        simp [text, pieces, Condition.line, Line.outermost, Piece.text]
  | field name value =>
      simp only [text, pieces, fieldLine, Line.outermost, keyPieces]
      split
      · simp [Piece.text]
      · split
        · next identifier =>
            exact noBlank_of_isIdentifier identifier _
        · simp [Piece.text, Json.quote]
  | declaration | scope | close | whole | emptyRecord | openRecord
  | closeRecord | finish | separator =>
      simp [text, pieces, producePieces, Piece.text]

theorem plainLine_text {form : LineForm} (named : form.wellNamed) :
    PlainLine (text options form) :=
  ⟨newline_notMem_of_clean (clean_pieces store evaluator named),
    noBlank_text store form⟩

end

end LineForm

end AggregateRules
