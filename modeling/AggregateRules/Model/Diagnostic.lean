/-!
# Diagnostics

A failure as it is shown to the author of a model: what is wrong, how severe it
is, and what to do about it.
-/

namespace AggregateRules

/-- How severe a diagnostic is. Whatever stops a compilation is an error. -/
inductive Severity where
  | error
  deriving DecidableEq

namespace Severity

def name : Severity → String
  | .error => "error"

def all : List Severity :=
  [.error]

end Severity

structure Diagnostic where
  message : String
  severity : Severity
  details : String
  deriving DecidableEq

/-- A diagnostic of the severity of an error. -/
def Diagnostic.error (message details : String) : Diagnostic :=
  ⟨message, .error, details⟩

end AggregateRules
