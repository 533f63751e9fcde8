import AggregateRules.Block.Basic
import AggregateRules.Json.Quoted

/-!
# Lines of generated code

A line of code is a sequence of pieces: fixed code, and literals. Whatever a
person wrote in a rule, an expression or a name, stands in a literal unless it
is an identifier, and so it cannot be taken for code.
-/

namespace AggregateRules

/-- How generated code is laid out, and which names it uses. -/
structure RenderOptions where
  /-- The number of spaces for each level of nesting. -/
  indent : Nat := 4
  /-- The name of the object that holds the variables. -/
  store : String := "ctx"
  /-- The name of the asynchronous function that evaluates expressions. -/
  evaluator : String := "evaluate"

/-- A part of a line: code as it stands, or a string that is written as a
literal. -/
inductive Piece where
  | code (text : String)
  | literal (value : String)
  deriving DecidableEq

/-- A line at a depth of nesting. A line without pieces is empty. -/
structure Line where
  depth : Nat
  pieces : List Piece
  deriving DecidableEq

def Piece.text : Piece → List Char
  | .code text => text.toList
  | .literal value => Json.quote value

namespace Line

def deeper (line : Line) : Line :=
  { line with depth := line.depth + 1 }

/-- The characters of a line with its line feed. An empty line is not indented.
-/
def text (indent : Nat) (line : Line) : List Char :=
  match line.pieces with
  | [] => ['\n']
  | pieces =>
      List.replicate (line.depth * indent) ' ' ++
        pieces.flatMap Piece.text ++ ['\n']

end Line

/-- Whether a name can be written without quotes: it is not empty, consists of
ASCII letters, digits, underscores and dollar signs, and does not start with a
digit. -/
def isIdentifier (name : String) : Bool :=
  match name.toList with
  | [] => false
  | first :: rest =>
      (first.isAlpha || first == '_' || first == '$') &&
        rest.all fun character =>
          character.isAlphanum || character == '_' || character == '$'

/-- The name that sets the prototype of an object when it stands as a key in
its literal. -/
def prototypeKey : String := "__proto__"

/-- A member of an object behind the object itself. -/
def memberPieces (name : String) : List Piece :=
  if isIdentifier name then [.code ".", .code name]
  else [.code "[", .literal name, .code "]"]

/-- A key of a record. In brackets it is a field of the record whatever its
name is. -/
def keyPieces (name : String) : List Piece :=
  if name = prototypeKey then [.code "[", .literal name, .code "]"]
  else if isIdentifier name then [.code name]
  else [.literal name]

/-- The value of an expression. -/
def Expression.pieces (options : RenderOptions) (expression : Expression) :
    List Piece :=
  [.code "await ", .code options.evaluator, .code "(",
    .literal expression.source, .code ", ", .code options.store, .code ")"]

end AggregateRules
