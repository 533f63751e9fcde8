import AggregateRules.Compilation.Error
import AggregateRules.Model.Node
import AggregateRules.Rule.Expression

/-!
# The log of a compilation

A compilation tells what it does while it does it: when it starts, which rule
it comes to, and how it ends. What has been told stays told when the
compilation fails later.
-/

namespace AggregateRules

/-- What a compilation tells about the rules of its node. -/
inductive LogEntry where
  /-- There is nothing to compile. -/
  | noRules
  /-- The numbers of rules and variables that are going to be compiled. -/
  | started (ruleCount variableCount : Nat)
  | alwaysRule
  | conditionRule (test : Expression) (negated stop : Bool)
  /-- The number of statements that the rules were compiled into. -/
  | compiled (statements : Nat)
  | failed (error : CompileError)
  deriving DecidableEq

/-- How closely a log must be followed for an entry to be seen. -/
inductive LogLevel where
  | debug
  | trace
  deriving DecidableEq

def LogLevel.name : LogLevel → String
  | .debug => "DEBUG"
  | .trace => "TRACE"

/-- A value that an entry is shown with. -/
inductive LogValue where
  | count (value : Nat)
  | flag (value : Bool)
  | text (value : String)
  deriving DecidableEq

namespace LogEntry

/-- The steps from rule to rule are of a finer level than start and end. -/
def level : LogEntry → LogLevel
  | .alwaysRule | .conditionRule .. => .trace
  | .noRules | .started .. | .compiled _ | .failed _ => .debug

def message : LogEntry → String
  | .noRules => "no rules; emitting empty behavior"
  | .started .. => "compiling rules"
  | .alwaysRule => "always rule"
  | .conditionRule .. => "condition rule"
  | .compiled _ => "compiled rules"
  | .failed _ => "rule compilation failed"

/-- The values that an entry is shown with, apart from the node. -/
def values : LogEntry → List (String × LogValue)
  | .noRules | .alwaysRule => []
  | .started ruleCount variableCount =>
      [("rules", .count ruleCount), ("variables", .count variableCount)]
  | .conditionRule test negated stop =>
      [("condition", .text test.source), ("negated", .flag negated),
        ("stop", .flag stop)]
  | .compiled statements => [("statements", .count statements)]
  | .failed error => [("error", .text error.message)]

/-- All values of an entry about the rules of a node. -/
def fields (node : Node) (entry : LogEntry) : List (String × LogValue) :=
  ("node", .text node.describe) :: entry.values

end LogEntry

/-- A result, or the error that stands in its place, with the entries that were
told on the way. -/
structure Logged (α : Type) where
  entries : List LogEntry
  outcome : Except CompileError α

namespace Logged

def result (value : α) : Logged α :=
  ⟨[], .ok value⟩

def tell (entry : LogEntry) : Logged Unit :=
  ⟨[entry], .ok ()⟩

/-- An outcome that nothing is told about. -/
def lift (outcome : Except CompileError α) : Logged α :=
  ⟨[], outcome⟩

/-- Goes on with a result; an error ends the computation and its log. -/
def andThen (first : Logged α) (next : α → Logged β) : Logged β :=
  match first.outcome with
  | .error error => ⟨first.entries, .error error⟩
  | .ok value => ⟨first.entries ++ (next value).entries, (next value).outcome⟩

instance : Monad Logged where
  pure := result
  bind := andThen

theorem andThen_result (first : Logged α) : first.andThen result = first := by
  obtain ⟨entries, outcome⟩ := first
  cases outcome with
  | error error => rfl
  | ok value => simp [andThen, result]

theorem andThen_assoc (first : Logged α) (second : α → Logged β)
    (third : β → Logged γ) :
    (first.andThen second).andThen third =
      first.andThen fun value => (second value).andThen third := by
  obtain ⟨entries, outcome⟩ := first
  cases outcome with
  | error error => rfl
  | ok value =>
      simp only [andThen]
      cases (second value).outcome with
      | error error => rfl
      | ok other => simp

instance : LawfulMonad Logged :=
  LawfulMonad.mk' Logged andThen_result
    (fun _ _ => by simp only [bind, pure, andThen, result, List.nil_append])
    andThen_assoc

@[simp] theorem outcome_pure (value : α) :
    (pure value : Logged α).outcome = .ok value :=
  rfl

@[simp] theorem outcome_tell (entry : LogEntry) :
    (tell entry).outcome = .ok () :=
  rfl

@[simp] theorem outcome_lift (outcome : Except CompileError α) :
    (lift outcome).outcome = outcome :=
  rfl

/-- The outcome does not depend on what is told. -/
@[simp] theorem outcome_bind (first : Logged α) (next : α → Logged β) :
    (first >>= next).outcome =
      first.outcome.bind fun value => (next value).outcome := by
  cases first with
  | mk entries outcome => cases outcome <;> rfl

end Logged

end AggregateRules
