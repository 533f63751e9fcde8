import AggregateRules.Unicode.IdentifierContinue
import AggregateRules.Unicode.IdentifierStart

/-!
# Identifiers of the generated language

A name that may stand behind a dot without quotes. The generated code writes
most names in ASCII, see `isIdentifier`; the language allows letters, marks and
digits of all scripts.
-/

namespace AggregateRules.Unicode

def startsIdentifier (character : Char) : Bool :=
  character == '$' || character == '_' || hasRun identifierStartRuns character

def continuesIdentifier (character : Char) : Bool :=
  character == '$' || hasRun identifierContinueRuns character

/-- Whether a name is not empty, starts with a character that starts an
identifier, and goes on with characters that continue one. -/
def isIdentifierName (name : String) : Bool :=
  match name.toList with
  | [] => false
  | first :: rest => startsIdentifier first && rest.all continuesIdentifier

end AggregateRules.Unicode
