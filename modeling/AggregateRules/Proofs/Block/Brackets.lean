import AggregateRules.Proofs.Block.Literals

/-!
# Brackets in generated code

The brackets outside the literals of a text are matched with a stack of those
that are open. What a line of generated code closes and opens only depends on
its form: no string of a block is counted, since it stands in a literal, and an
identifier has no brackets.
-/

namespace AggregateRules

/-- Whether a character opens a bracket. -/
def isOpening (character : Char) : Bool :=
  character == '{' || character == '(' || character == '['

/-- The bracket that a closing bracket closes. -/
def opening? : Char → Option Char
  | '}' => some '{'
  | ')' => some '('
  | ']' => some '['
  | _ => none

/-- What is open behind a token, the innermost bracket first. There is nothing
if the token closes another bracket than the innermost one, or none is open. -/
def Token.nest? (opened : List Char) : Token → Option (List Char)
  | .literal _ => some opened
  | .code character =>
      if isOpening character then some (character :: opened)
      else
        match opening? character with
        | none => some opened
        | some expected =>
            match opened with
            | [] => none
            | innermost :: rest =>
                if innermost = expected then some rest else none

/-- What is open behind some tokens, given what is open before them. -/
def nest? (opened : List Char) (tokens : List Token) : Option (List Char) :=
  tokens.foldlM Token.nest? opened

/-- The number of braces that are open behind a text, if its literals are
closed and its brackets match up to there. -/
def openBraces? (text : List Char) : Option Nat := do
  let tokens ← tokens? text
  let opened ← nest? [] tokens
  return opened.count '{'

/-- Whether all brackets of a text are matched: none is closed that is not the
innermost open one, and none is open at the end. -/
def BracketsMatch (text : List Char) : Prop :=
  ∃ tokens, tokens? text = some tokens ∧ nest? [] tokens = some []

theorem nest?_append (opened : List Char) (first second : List Token) :
    nest? opened (first ++ second) =
      (nest? opened first).bind (nest? · second) :=
  List.foldlM_append

/-- Whether a character is no bracket. -/
def isPlain (character : Char) : Bool :=
  !isOpening character && opening? character == none

theorem nest?_of_isPlain {character : Char} (plain : isPlain character)
    (opened : List Char) :
    Token.nest? opened (.code character) = some opened := by
  have both : isOpening character = false ∧ opening? character = none := by
    simpa [isPlain] using plain
  simp [Token.nest?, both.1, both.2]

theorem nest?_code {text : List Char}
    (plain : ∀ character ∈ text, isPlain character) (opened : List Char) :
    nest? opened (text.map .code) = some opened := by
  induction text with
  | nil => rfl
  | cons character rest ih =>
      obtain ⟨first, others⟩ := List.forall_mem_cons.mp plain
      have step := nest?_of_isPlain first opened
      rw [List.map_cons, nest?, List.foldlM_cons, step]
      exact ih others

theorem isPlain_of_isNameCharacter {character : Char}
    (isName : isNameCharacter character) : isPlain character := by
  have apart : ∀ bracket, isNameCharacter bracket = false →
      character ≠ bracket := by
    rintro bracket noName rfl
    exact absurd isName (by simp [noName])
  have opensNone : isOpening character = false := by
    simp only [isOpening, Bool.or_eq_false_iff, beq_eq_false_iff_ne]
    exact ⟨⟨apart '{' (by decide), apart '(' (by decide)⟩,
      apart '[' (by decide)⟩
  have closesNone : opening? character = none := by
    unfold opening?
    split
    · exact absurd rfl (apart '}' (by decide))
    · exact absurd rfl (apart ')' (by decide))
    · exact absurd rfl (apart ']' (by decide))
    · rfl
  simp [isPlain, opensNone, closesNone]

/-- Whether pieces close some brackets and then open others, and let alone
whatever is open around them. The innermost bracket comes first. -/
def Turns (closed opened : List Char) (pieces : List Piece) : Prop :=
  ∀ outer, nest? (closed ++ outer) (pieces.flatMap Piece.tokens) =
    some (opened ++ outer)

namespace Turns

theorem append {before middle behind : List Char} {first second : List Piece}
    (firstTurns : Turns before middle first)
    (secondTurns : Turns middle behind second) :
    Turns before behind (first ++ second) := by
  intro outer
  rw [List.flatMap_append, nest?_append, firstTurns, Option.bind_some,
    secondTurns]

theorem cons {before middle behind : List Char} {piece : Piece}
    {rest : List Piece} (first : Turns before middle [piece])
    (others : Turns middle behind rest) : Turns before behind (piece :: rest) :=
  first.append others

theorem frame {closed opened : List Char} {pieces : List Piece}
    (turns : Turns closed opened pieces) (around : List Char) :
    Turns (closed ++ around) (opened ++ around) pieces := by
  intro outer
  rw [List.append_assoc, List.append_assoc]
  exact turns (around ++ outer)

theorem literal (value : String) : Turns [] [] [.literal value] := fun _ => rfl

theorem identifier {name : String} (isName : isIdentifier name) :
    Turns [] [] [.code name] := by
  intro outer
  have characters := isNameCharacter_of_isIdentifier isName
  simpa [Piece.tokens] using
    nest?_code (fun character inside =>
      isPlain_of_isNameCharacter (characters character inside)) outer

end Turns

theorem turns_memberPieces (name : String) :
    Turns [] [] (memberPieces name) := by
  have opens : Turns [] ['['] [.code "["] := fun _ => rfl
  have closes : Turns ['['] [] [.code "]"] := fun _ => rfl
  have dot : Turns [] [] [.code "."] := fun _ => rfl
  unfold memberPieces
  split
  · next isName => exact dot.cons (.identifier isName)
  · exact opens.cons (((Turns.literal name).frame ['[']).cons closes)

theorem turns_keyPieces (name : String) : Turns [] [] (keyPieces name) := by
  have opens : Turns [] ['['] [.code "["] := fun _ => rfl
  have closes : Turns ['['] [] [.code "]"] := fun _ => rfl
  unfold keyPieces
  split
  · exact opens.cons (((Turns.literal name).frame ['[']).cons closes)
  · split
    · next isName => exact .identifier isName
    · exact .literal name

theorem turns_producePieces {service event : String}
    (identifiers : (isIdentifier service && isIdentifier event) = true) :
    Turns [] [] (producePieces service event) := by
  obtain ⟨isService, isEvent⟩ := (Bool.and_eq_true _ _).mp identifiers
  have begins : Turns [] [] [.code "yield new "] := fun _ => rfl
  have dot : Turns [] [] [.code "."] := fun _ => rfl
  exact begins.cons <| (Turns.identifier isService).cons <| dot.cons <|
    .identifier isEvent

namespace LineForm

/-- The brackets that a line closes which earlier lines opened. -/
def closes : LineForm → List Char
  | .close => ['{']
  | .closeRecord => ['{', '(']
  | _ => []

/-- The brackets that a line leaves open. -/
def opens : LineForm → List Char
  | .branch _ | .scope => ['{']
  | .openRecord .. => ['{', '(']
  | _ => []

section

variable {options : RenderOptions} (store : isIdentifier options.store)
  (evaluator : isIdentifier options.evaluator)

include store evaluator

theorem turns_evaluation (value : Expression) :
    Turns [] [] (value.pieces options) := by
  have begins : Turns [] [] [.code "await "] := fun _ => rfl
  have opens : Turns [] ['('] [.code "("] := fun _ => rfl
  have comma : Turns ['('] ['('] [.code ", "] := fun _ => rfl
  have closes : Turns ['('] [] [.code ")"] := fun _ => rfl
  exact begins.cons <| (Turns.identifier evaluator).cons <| opens.cons <|
    ((Turns.literal value.source).frame ['(']).cons <| comma.cons <|
    ((Turns.identifier store).frame ['(']).cons closes

theorem turns_pieces {form : LineForm} (named : form.wellNamed) :
    Turns form.closes form.opens (form.pieces options) := by
  have evaluation := turns_evaluation store evaluator
  have stored := Turns.identifier store
  cases form with
  | declaration =>
      have begins : Turns [] [] [.code "const "] := fun _ => rfl
      have ends : Turns [] [] [.code " = \x7b\x7d;"] := fun _ => rfl
      exact begins.cons (stored.cons ends)
  | binding name value =>
      have isSet : Turns [] [] [.code " = "] := fun _ => rfl
      have ends : Turns [] [] [.code ";"] := fun _ => rfl
      have target := stored.cons (turns_memberPieces name)
      exact (target.append (isSet.cons (evaluation value))).append ends
  | branch condition =>
      obtain ⟨test, negated⟩ := condition
      cases negated with
      | false =>
          have begins : Turns [] ['('] [.code "if ("] := fun _ => rfl
          have ends : Turns ['('] ['{'] [.code ") \x7b"] := fun _ => rfl
          exact begins.cons (((evaluation test).frame ['(']).append ends)
      | true =>
          have begins : Turns [] ['(', '('] [.code "if (!("] := fun _ => rfl
          have ends : Turns ['(', '('] ['{'] [.code ")) \x7b"] := fun _ => rfl
          exact begins.cons (((evaluation test).frame ['(', '(']).append ends)
  | whole service event value =>
      have begins : Turns [] ['('] [.code "("] := fun _ => rfl
      have ends : Turns ['('] [] [.code ");"] := fun _ => rfl
      exact (turns_producePieces named).append <| begins.cons <|
        ((evaluation value).frame ['(']).append ends
  | emptyRecord service event =>
      have ends : Turns [] [] [.code "(\x7b\x7d);"] := fun _ => rfl
      exact (turns_producePieces named).append ends
  | openRecord service event =>
      have ends : Turns [] ['{', '('] [.code "(\x7b"] := fun _ => rfl
      exact (turns_producePieces named).append ends
  | field name value =>
      have colon : Turns [] [] [.code ": "] := fun _ => rfl
      have ends : Turns [] [] [.code ","] := fun _ => rfl
      exact ((turns_keyPieces name).append
        (colon.cons (evaluation value))).append ends
  | scope | close | closeRecord | finish | separator => exact fun _ => rfl

end

end LineForm

end AggregateRules
