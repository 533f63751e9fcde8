import AggregateRules.Label.Word

/-!
# Names derived from a label

One label yields a name for each place where generated code refers to an
element of the model. Labels that yield one class name refer to one class,
however they are written.
-/

namespace AggregateRules.Label

open Unicode

def words (label : String) : List (List Char) :=
  splitWords label.toList

/-- A word whose first character is in uppercase and all others in lowercase.
-/
def capitalize : List Char → List Char
  | [] => []
  | first :: rest => toUppercase first ++ rest.flatMap toLowercase

/-- The name of a class, such as `OrderPlaced`. -/
def className (label : String) : String :=
  String.ofList ((words label).flatMap capitalize)

/-- The name of a property, such as `orderPlaced`. -/
def propertyName (label : String) : String :=
  String.ofList <|
    match words label with
    | [] => []
    | first :: rest => lowercaseWord first ++ rest.flatMap capitalize

/-- The name of a file, such as `order-placed`. -/
def fileName (label : String) : String :=
  String.ofList (List.intercalate ['-'] ((words label).map lowercaseWord))

/-- The name of a constant, such as `ORDER_PLACED`. -/
def constantName (label : String) : String :=
  String.ofList (List.intercalate ['_'] ((words label).map uppercaseWord))

/-- Whether two labels refer to one class. -/
def sameClass (left right : String) : Bool :=
  className left == className right

end AggregateRules.Label
