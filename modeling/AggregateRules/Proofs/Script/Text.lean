import AggregateRules.Proofs.Compilation.CompiledText
import AggregateRules.Proofs.Script.Object

/-!
# Reading assignments and literals

The lines of generated code are searched for the assignments that set the
variables, and for the literals with the data of events. What is read is what a
line says: the name behind the object or between brackets, and the form of a
key. Which statement a line came from plays no part in it.

From the lines of a block the reader finds the literal of each event that is
handed out with fields, see `Block.readLiterals_forms`.
-/

namespace AggregateRules.Script

/-- An identifier at the beginning of a text, and the text behind it. -/
def readIdentifier (text : List Char) : Option (String × List Char) :=
  if isIdentifier (readName text).1 then some (readName text) else none

/-- A string in brackets, from the text behind the opening bracket. -/
def readBracketed (text : List Char) : Option (String × List Char) := do
  let (name, text) ← Json.quoted? text
  some (name, ← behind "]".toList text)

/-- The name of a property, from the text behind its object. -/
def readMember : List Char → Option (String × List Char)
  | '.' :: text => readIdentifier text
  | '[' :: text => readBracketed text
  | _ => none

/-- The key at the beginning of an entry. -/
def readKey : List Char → Option (Key × List Char)
  | '[' :: text => do
      let (name, text) ← readBracketed text
      some (.computed name, text)
  | '"' :: text => do
      let (name, text) ← Json.quoted? ('"' :: text)
      some (.quoted name, text)
  | text => do
      let (name, text) ← readIdentifier text
      some (.bare name, text)

/-- What a line assigns to the object with the variables. -/
def readAssignment (options : RenderOptions) (line : List Char) :
    Option (String × Expression) := do
  let (name, text) ← readMember (← behind options.store.toList line)
  let (value, text) ← readEvaluation options (← behind " = ".toList text)
  if text = ";".toList then some (name, value) else none

/-- The entry of a literal on a line of its own. -/
def readEntry (options : RenderOptions) (line : List Char) :
    Option (Key × Expression) := do
  let (key, text) ← readKey line
  let (value, text) ← readEvaluation options (← behind ": ".toList text)
  if text = ",".toList then some (key, value) else none

/-- What can be read from the first lines, up to a line that says something
else. -/
def leading (read : List Char → Option α) : List (List Char) → List α
  | [] => []
  | line :: rest =>
      match read line with
      | some item => item :: leading read rest
      | none => []

/-- The assignments that set the variables, behind the line that creates their
object. -/
def readDeclaration (options : RenderOptions) :
    List (List Char) → Option (List (String × Expression))
  | [] => none
  | line :: rest =>
      if line = "const ".toList ++ (options.store.toList ++
          " = \x7b\x7d;".toList) then
        some (leading (readAssignment options) rest)
      else none

/-- The entries of a literal, from the lines behind its first one. -/
def readEntries (options : RenderOptions) :
    List (List Char) → Option (List (Key × Expression))
  | [] => none
  | line :: rest =>
      if line = "\x7d);".toList then some []
      else do
        let entry ← readEntry options line
        let entries ← readEntries options rest
        some (entry :: entries)

/-- What a line that hands out an event says behind the name of its class. -/
def readArgument (line : List Char) : Option (List Char) :=
  (behind "yield new ".toList line).map fun text => text.dropWhile (· ≠ '(')

/-- The literals with the data of events, in the order of the text. There is no
answer if a literal cannot be read. -/
def readLiterals (options : RenderOptions) :
    List (List Char) → Option (List (List (Key × Expression)))
  | [] => some []
  | line :: rest => do
      let others ← readLiterals options rest
      if readArgument line = some "(\x7b\x7d);".toList then
        some ([] :: others)
      else if readArgument line = some "(\x7b".toList then do
        let entries ← readEntries options rest
        some (entries :: others)
      else some others

theorem eq_of_behind {code text rest : List Char}
    (found : behind code text = some rest) : text = code ++ rest := by
  induction code generalizing text with
  | nil =>
      cases found
      rfl
  | cons expected more ih =>
      cases text with
      | nil => cases found
      | cons character text =>
          rw [behind] at found
          split at found
          · next same => rw [same, ih found, List.cons_append]
          · cases found

theorem readIdentifier_append {name : String}
    (identifier : isIdentifier name) {next : Char}
    (ends : isNameCharacter next = false) (rest : List Char) :
    readIdentifier (name.toList ++ next :: rest) =
      some (name, next :: rest) := by
  rw [readIdentifier, readName_append identifier ends, if_pos identifier]

theorem readBracketed_append (name : String) (rest : List Char) :
    readBracketed (Json.quote name ++ ("]".toList ++ rest)) =
      some (name, rest) := by
  simp only [readBracketed, Json.quoted?_quote, Option.bind_eq_bind,
    Option.bind_some, behind_append]

theorem readMember_append (name : String) {next : Char}
    (ends : isNameCharacter next = false) (rest : List Char) :
    readMember ((memberPieces name).flatMap Piece.text ++ next :: rest) =
      some (name, next :: rest) := by
  by_cases identifier : isIdentifier name
  · have shape : (memberPieces name).flatMap Piece.text ++ next :: rest =
        '.' :: (name.toList ++ next :: rest) := by
      simp [memberPieces, identifier, Piece.text]
    rw [shape]
    exact readIdentifier_append identifier ends rest
  · have shape : (memberPieces name).flatMap Piece.text ++ next :: rest =
        '[' :: (Json.quote name ++ ("]".toList ++ next :: rest)) := by
      simp [memberPieces, identifier, Piece.text]
    rw [shape]
    exact readBracketed_append name (next :: rest)

theorem readKey_append (name : String) {next : Char}
    (ends : isNameCharacter next = false) (rest : List Char) :
    readKey ((keyPieces name).flatMap Piece.text ++ next :: rest) =
      some (.ofField name, next :: rest) := by
  unfold keyPieces Key.ofField
  split
  · have shape :
        [Piece.code "[", .literal name, .code "]"].flatMap Piece.text ++
          next :: rest =
        '[' :: (Json.quote name ++ ("]".toList ++ next :: rest)) := by
      simp [Piece.text]
    rw [shape, readKey, readBracketed_append]
    rfl
  · split
    · next identifier =>
        obtain ⟨first, others, spelled, isName⟩ :=
          exists_cons_of_isIdentifier identifier
        have shape : [Piece.code name].flatMap Piece.text ++ next :: rest =
            name.toList ++ next :: rest := by
          simp [Piece.text]
        rw [shape, readKey]
        · rw [readIdentifier_append identifier ends]
          rfl
        · intro text bracketed
          rw [spelled] at bracketed
          cases bracketed
          exact absurd isName (by decide)
        · intro text quoted
          rw [spelled] at quoted
          cases quoted
          exact absurd isName (by decide)
    · have shape : [Piece.literal name].flatMap Piece.text ++ next :: rest =
          Json.quote name ++ next :: rest := by
        simp [Piece.text]
      have quoted := Json.quoted?_quote name (next :: rest)
      rw [shape]
      rw [Json.quote, List.cons_append, List.cons_append] at quoted ⊢
      rw [readKey, quoted]
      rfl

theorem readAssignment_binding (options : RenderOptions) (name : String)
    (value : Expression) :
    readAssignment options (LineForm.text options (.binding name value)) =
      some (name, value) := by
  let assigned := " = ".toList ++
    ((value.pieces options).flatMap Piece.text ++ ";".toList)
  have member :
      readMember ((memberPieces name).flatMap Piece.text ++ assigned) =
        some (name, assigned) :=
    readMember_append name (by rfl : isNameCharacter ' ' = false) _
  rw [LineForm.text_binding, readAssignment]
  simp only [behind_append, Option.bind_eq_bind, Option.bind_some, member,
    assigned, readEvaluation_append, if_true]

theorem readEntry_field (options : RenderOptions) (name : String)
    (value : Expression) :
    readEntry options (LineForm.text options (.field name value)) =
      some (.ofField name, value) := by
  let defined := ": ".toList ++
    ((value.pieces options).flatMap Piece.text ++ ",".toList)
  have key : readKey ((keyPieces name).flatMap Piece.text ++ defined) =
      some (.ofField name, defined) :=
    readKey_append name (by rfl : isNameCharacter ':' = false) _
  rw [LineForm.text_field, readEntry]
  simp only [key, behind_append, Option.bind_eq_bind, Option.bind_some,
    defined, readEvaluation_append, if_true]

theorem leading_append {read : List Char → Option α} {items : List α}
    {text : α → List Char} (reads : ∀ item, read (text item) = some item)
    {stop : List Char} (stops : read stop = none) (rest : List (List Char)) :
    leading read (items.map text ++ stop :: rest) = items := by
  induction items with
  | nil => simp [leading, stops]
  | cons item items ih => simp [leading, reads, ih]

theorem readEntries_fields (options : RenderOptions)
    (fields : List (String × Expression)) (rest : List (List Char)) :
    readEntries options
        ((fields.map fun field =>
          LineForm.text options (.field field.1 field.2)) ++
          "\x7d);".toList :: rest) =
      some (fields.map fun field => (.ofField field.1, field.2)) := by
  induction fields with
  | nil => rfl
  | cons field fields ih =>
      have entry := readEntry_field options field.1 field.2
      have notClosed :
          LineForm.text options (.field field.1 field.2) ≠ "\x7d);".toList := by
        intro closed
        rw [closed] at entry
        cases entry
      rw [List.map_cons, List.cons_append, readEntries, if_neg notClosed,
        entry, ih]
      rfl

theorem readArgument_producePieces {service event : String}
    (plainService : '(' ∉ service.toList) (plainEvent : '(' ∉ event.toList)
    (rest : List Char) :
    readArgument ((producePieces service event).flatMap Piece.text ++
        '(' :: rest) =
      some ('(' :: rest) := by
  have shape : (producePieces service event).flatMap Piece.text ++ '(' :: rest =
      "yield new ".toList ++ ((service.toList ++ '.' :: event.toList) ++
        '(' :: rest) := by
    simp [producePieces, Piece.text]
  have names : ∀ character ∈ service.toList ++ '.' :: event.toList,
      decide (character ≠ '(') = true := by
    intro character member
    rw [decide_eq_true_eq]
    rintro rfl
    rw [List.mem_append, List.mem_cons] at member
    obtain inService | isDot | inEvent := member
    · exact plainService inService
    · exact absurd isDot (by decide)
    · exact plainEvent inEvent
  rw [shape, readArgument, behind_append, Option.map_some,
    List.dropWhile_append_of_pos names]
  rfl

/-- A line whose first word is not followed by a blank hands out nothing, also
if this word is `yield`. -/
theorem readArgument_of_word {word : String} (identifier : isIdentifier word)
    {next : Char} (ends : isNameCharacter next = false) (notBlank : next ≠ ' ')
    (rest : List Char) :
    readArgument (word.toList ++ next :: rest) = none := by
  cases found : behind "yield new ".toList (word.toList ++ next :: rest) with
  | none => rw [readArgument, found, Option.map_none]
  | some text =>
      have isName : isIdentifier "yield" = true := rfl
      have read := readName_append identifier ends rest
      have shape : "yield new ".toList ++ text =
          "yield".toList ++ ' ' :: ("new ".toList ++ text) := rfl
      rw [eq_of_behind found, shape, readName_append isName (by rfl)] at read
      cases read
      exact absurd rfl notBlank

section

variable {options : RenderOptions} (store : isIdentifier options.store)

include store

/-- A line without references hands out nothing. -/
theorem readArgument_of_noReferences {form : LineForm}
    (noReferences : form.references = []) :
    readArgument (LineForm.text options form) = none := by
  cases form with
  | whole | emptyRecord | openRecord => cases noReferences
  | binding name value =>
      rw [LineForm.text_binding]
      unfold memberPieces
      split
      · exact readArgument_of_word store (by rfl : isNameCharacter '.' = false)
          (by decide) _
      · exact readArgument_of_word store (by rfl : isNameCharacter '[' = false)
          (by decide) _
  | field name value =>
      rw [LineForm.text_field]
      unfold keyPieces
      split
      · rfl
      · split
        · next identifier =>
            have single : [Piece.code name].flatMap Piece.text =
                name.toList := by
              simp [Piece.text]
            rw [single]
            exact readArgument_of_word identifier
              (by rfl : isNameCharacter ':' = false) (by decide) _
        · rfl
  | branch condition =>
      obtain ⟨test, negated⟩ := condition
      cases negated <;> rfl
  | declaration | scope | close | closeRecord | finish | separator => rfl

end

/-- A line that opens no literal. -/
structure OpensNone (line : List Char) : Prop where
  notEmpty : readArgument line ≠ some "(\x7b\x7d);".toList
  notOpened : readArgument line ≠ some "(\x7b".toList

theorem opensNone_of_silent {line : List Char}
    (silent : readArgument line = none) : OpensNone line := by
  constructor <;> simp [silent]

section

variable {options : RenderOptions}

theorem readLiterals_cons_of_opensNone {line : List Char}
    (opensNone : OpensNone line) (rest : List (List Char)) :
    readLiterals options (line :: rest) = readLiterals options rest := by
  rw [readLiterals]
  simp only [if_neg opensNone.notEmpty, if_neg opensNone.notOpened]
  cases readLiterals options rest <;> rfl

theorem readLiterals_append_of_opensNone {lines : List (List Char)}
    (opensNone : ∀ line ∈ lines, OpensNone line) (rest : List (List Char)) :
    readLiterals options (lines ++ rest) = readLiterals options rest := by
  induction lines with
  | nil => rfl
  | cons line lines ih =>
      obtain ⟨first, others⟩ := List.forall_mem_cons.mp opensNone
      rw [List.cons_append, readLiterals_cons_of_opensNone first, ih others]

variable {rest : List (List Char)} {others : List (List (Key × Expression))}
  (read : readLiterals options rest = some others)

include read

theorem readLiterals_cons_of_empty {line : List Char}
    (empty : readArgument line = some "(\x7b\x7d);".toList) :
    readLiterals options (line :: rest) = some ([] :: others) := by
  rw [readLiterals, read]
  simp only [if_pos empty, Option.bind_eq_bind, Option.bind_some]

theorem readLiterals_cons_of_opened {line : List Char}
    (opened : readArgument line = some "(\x7b".toList)
    {entries : List (Key × Expression)}
    (filled : readEntries options rest = some entries) :
    readLiterals options (line :: rest) = some (entries :: others) := by
  have notEmpty : readArgument line ≠ some "(\x7b\x7d);".toList := by
    rw [opened]
    decide
  rw [readLiterals, read, filled]
  simp only [if_neg notEmpty, if_pos opened, Option.bind_eq_bind,
    Option.bind_some]

end

end AggregateRules.Script

namespace AggregateRules

open Script

/-- The literals that the data of an event is written with. -/
def Payload.literals : Payload → List (List (Key × Expression))
  | .whole _ => []
  | .record fields => [fields.map fun field => (.ofField field.1, field.2)]

/-- The literals with the data of the events that a block hands out. -/
def Block.literals (block : Block) : List (List (Key × Expression)) :=
  (Block.productions block).flatMap fun production =>
    production.payload.literals

section

variable {options : RenderOptions} (store : isIdentifier options.store)
  {rest : List (List Char)} {others : List (List (Key × Expression))}

include store

theorem LineForm.opensNone {form : LineForm}
    (noReferences : form.references = []) : OpensNone (text options form) :=
  opensNone_of_silent (readArgument_of_noReferences store noReferences)

theorem Payload.readLiterals_forms {service event : String}
    (plain : ∀ name ∈ [service, event], '(' ∉ name.toList) (payload : Payload)
    (read : readLiterals options rest = some others) :
    readLiterals options
        ((payload.forms service event).map (LineForm.text options) ++ rest) =
      some (payload.literals ++ others) := by
  have argument (behind : List Char) :=
    readArgument_producePieces (plain service (by simp)) (plain event (by simp))
      behind
  cases payload with
  | whole value =>
      have opensNone :
          OpensNone (LineForm.text options (.whole service event value)) := by
        rw [LineForm.text_whole]
        constructor <;> simp [argument, Expression.pieces, Piece.text]
      exact (readLiterals_cons_of_opensNone opensNone rest).trans read
  | record fields =>
      cases fields with
      | nil =>
          apply readLiterals_cons_of_empty read
          rw [LineForm.text_emptyRecord, argument]
          rfl
      | cons field fields =>
          let entries := ((field :: fields).map fun field =>
            LineForm.text options (.field field.1 field.2))
          have lines : ((Payload.record (field :: fields)).forms service
                event).map (LineForm.text options) ++ rest =
              LineForm.text options (.openRecord service event) ::
                (entries ++ LineForm.text options .closeRecord :: rest) := by
            simp [Payload.forms, entries, Function.comp_def]
          have closed : readLiterals options
              (LineForm.text options .closeRecord :: rest) = some others := by
            have opensNone := LineForm.opensNone store
              (by rfl : LineForm.references .closeRecord = [])
            exact (readLiterals_cons_of_opensNone opensNone rest).trans read
          have inside : readLiterals options
              (entries ++ LineForm.text options .closeRecord :: rest) =
                some others := by
            rw [readLiterals_append_of_opensNone, closed]
            exact List.forall_mem_map.mpr fun _ _ =>
              LineForm.opensNone store rfl
          rw [lines]
          apply readLiterals_cons_of_opened inside
          · rw [LineForm.text_openRecord, argument]
            rfl
          · exact readEntries_fields options (field :: fields) rest

end

mutual

theorem Statement.readLiterals_forms {options : RenderOptions}
    (store : isIdentifier options.store) {rest : List (List Char)}
    {others : List (List (Key × Expression))} (statement : Statement)
    (plain : ∀ name ∈ statement.productions.flatMap Production.references,
      '(' ∉ name.toList)
    (read : readLiterals options rest = some others) :
    readLiterals options
        (statement.forms.map (LineForm.text options) ++ rest) =
      some ((statement.productions.flatMap fun production =>
        production.payload.literals) ++ others) := by
  have silent {form : LineForm} (noReferences : form.references = [])
      {more : List (List Char)} :
      readLiterals options (LineForm.text options form :: more) =
        readLiterals options more :=
    readLiterals_cons_of_opensNone (LineForm.opensNone store noReferences) more
  cases statement with
  | declareVariables bindings =>
      have opensNone : ∀ line ∈ (Statement.declareVariables bindings).forms.map
          (LineForm.text options), OpensNone line := by
        refine List.forall_mem_map.mpr fun form isForm => ?_
        refine LineForm.opensNone store ?_
        rw [Statement.forms, List.mem_cons, List.mem_map] at isForm
        obtain rfl | ⟨binding, -, rfl⟩ := isForm
        · rfl
        · rfl
      rw [readLiterals_append_of_opensNone opensNone, read]
      rfl
  | branch condition body =>
      have closed : readLiterals options
          (LineForm.text options .close :: rest) = some others :=
        (silent rfl).trans read
      have inner := Block.readLiterals_forms store body plain closed
      simp only [Statement.forms, List.cons_append, List.map_cons,
        List.map_append, List.map_nil, List.append_assoc, List.nil_append]
      rw [silent rfl]
      exact inner
  | scope body =>
      have closed : readLiterals options
          (LineForm.text options .close :: rest) = some others :=
        (silent rfl).trans read
      have inner := Block.readLiterals_forms store body plain closed
      simp only [Statement.forms, List.cons_append, List.map_cons,
        List.map_append, List.map_nil, List.append_assoc, List.nil_append]
      rw [silent rfl]
      exact inner
  | produce service event payload =>
      have named : ∀ name ∈ [service, event], '(' ∉ name.toList := by
        simpa [Statement.productions, Production.references] using plain
      have written := payload.readLiterals_forms store named read
      simpa [Statement.forms, Statement.productions] using written
  | finish => exact (silent rfl).trans read
  | separator => exact (silent rfl).trans read

theorem Block.readLiterals_forms {options : RenderOptions}
    (store : isIdentifier options.store) {rest : List (List Char)}
    {others : List (List (Key × Expression))} (block : List Statement)
    (plain : ∀ name ∈ Block.references block, '(' ∉ name.toList)
    (read : readLiterals options rest = some others) :
    readLiterals options
        ((Block.forms block).map (LineForm.text options) ++ rest) =
      some (Block.literals block ++ others) := by
  cases block with
  | nil => exact read
  | cons statement more =>
      rw [Block.references, Block.productions, List.flatMap_append,
        List.forall_mem_append] at plain
      have behind := Block.readLiterals_forms store more plain.2 read
      have first := Statement.readLiterals_forms store statement plain.1 behind
      simpa [Block.forms, Block.literals, Block.productions,
        List.append_assoc] using first

end

end AggregateRules
