import AggregateRules.Block.Line

/-!
# The text of a block

Each statement has its lines, and the body of a statement stands one level
deeper. An empty block has the empty text; the text of any other block ends
with a line feed.
-/

namespace AggregateRules

def Line.outermost (pieces : List Piece) : Line :=
  ⟨0, pieces⟩

/-- The line that opens a branch. -/
def Condition.line (options : RenderOptions) (condition : Condition) : Line :=
  .outermost <|
    if condition.negated then
      .code "if (!(" :: condition.test.pieces options ++ [.code ")) \x7b"]
    else .code "if (" :: condition.test.pieces options ++ [.code ") \x7b"]

def bindingLine (options : RenderOptions) (binding : String × Expression) :
    Line :=
  .outermost <|
    .code options.store :: memberPieces binding.1 ++
      .code " = " :: binding.2.pieces options ++ [.code ";"]

def fieldLine (options : RenderOptions) (field : String × Expression) : Line :=
  .outermost <|
    keyPieces field.1 ++ .code ": " :: field.2.pieces options ++ [.code ","]

/-- The beginning of a statement that hands out an event. -/
def producePieces (service event : String) : List Piece :=
  [.code "yield new ", .code service, .code ".", .code event]

def Payload.lines (options : RenderOptions) (service event : String) :
    Payload → List Line
  | .whole value =>
      [.outermost
        (producePieces service event ++
          .code "(" :: value.pieces options ++ [.code ");"])]
  | .record [] =>
      [.outermost (producePieces service event ++ [.code "(\x7b\x7d);"])]
  | .record fields =>
      .outermost (producePieces service event ++ [.code "(\x7b"]) ::
        (fields.map fun field => (fieldLine options field).deeper) ++
        [.outermost [.code "\x7d);"]]

mutual

def Statement.lines (options : RenderOptions) : Statement → List Line
  | .declareVariables bindings =>
      .outermost [.code "const ", .code options.store, .code " = \x7b\x7d;"] ::
        bindings.map (bindingLine options)
  | .branch condition body =>
      condition.line options :: (Block.lines options body).map Line.deeper ++
        [.outermost [.code "\x7d"]]
  | .scope body =>
      .outermost [.code "\x7b"] :: (Block.lines options body).map Line.deeper ++
        [.outermost [.code "\x7d"]]
  | .produce service event payload => payload.lines options service event
  | .finish => [.outermost [.code "return;"]]
  | .separator => [.outermost []]

/-- The lines of a block, statement by statement. -/
def Block.lines (options : RenderOptions) : List Statement → List Line
  | [] => []
  | statement :: rest => statement.lines options ++ Block.lines options rest

end

def Block.text (options : RenderOptions) (block : Block) : List Char :=
  (Block.lines options block).flatMap (Line.text options.indent)

/-- The text of a block. -/
def Block.render (options : RenderOptions) (block : Block) : String :=
  String.ofList (Block.text options block)

end AggregateRules
