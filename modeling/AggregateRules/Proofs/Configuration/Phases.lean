import AggregateRules.Proofs.Compilation.FirstFault
import AggregateRules.Proofs.Configuration.Grammar

/-!
# Errors of form come first

A configuration is read as a whole before it is compiled. An error about its
form does not depend on the model, because nobody has asked the model yet, and
no mistake in what the rules say can hide it. An error of any other kind tells
that the form was right.
-/

namespace AggregateRules

open Compilation

section

variable {node : Node} {model : Model}

theorem VariableFault.notStructural {earlier : List String}
    {entry : Variable} {error : CompileError}
    (fault : VariableFault node earlier entry error) :
    error.isStructural = false := by
  cases fault with
  | reserved | repeated => rfl

theorem EventFault.notStructural {event : String} {error : CompileError}
    (fault : EventFault node model event error) :
    error.isStructural = false := by
  cases fault with
  | unknownService | qualified | unknownTargets | notConnected
  | unusableService | unusableTarget => rfl

theorem notStructural_of_compile {rules : List Rule}
    {declared : List Variable} {error : CompileError}
    (failed : compile node model rules declared = .error error) :
    error.isStructural = false := by
  rcases fault_of_compile_eq_error failed with
    ⟨_, _, _, _, _, fault⟩ | ⟨_, _, _, _, _, fault⟩
  · exact fault.notStructural
  · exact fault.notStructural

end

namespace Configuration

theorem isStructural_of_readVariables {node : Node} {value : Json}
    {error : CompileError}
    (failed : readVariables node value = .error error) :
    error.isStructural = true := by
  cases value with
  | null => cases failed
  | array items =>
      rw [readVariables] at failed
      cases read : items.mapM Variable.saved.ofJson with
      | ok declared =>
          rw [read] at failed
          cases failed
      | error fault =>
          rw [read] at failed
          cases failed
          rfl
  | bool | number | string | object =>
      cases failed
      rfl

theorem compile_eq_bind (node : Node) (model : Model)
    (configuration : Configuration) :
    compile node model configuration =
      (readRules node configuration.rules).bind fun denoted =>
        if denoted.isEmpty then .ok []
        else (readVariables node configuration.declared).bind fun declared =>
          AggregateRules.compile node model denoted declared := by
  rw [compile, run]
  simp only [Logged.outcome_bind, Logged.outcome_lift]
  congr 1
  funext denoted
  cases denoted with
  | nil => rfl
  | cons rule rest =>
      simp only [List.isEmpty_cons, Bool.false_eq_true, if_false,
        Logged.outcome_bind, Logged.outcome_lift]
      rfl

/-- The error of a configuration that cannot be read. The variables are only
read for the sake of rules. -/
inductive ReadingFault (node : Node) (configuration : Configuration) :
    CompileError → Prop where
  | rules :
      readRules node configuration.rules = .error error →
      ReadingFault node configuration error
  | declared :
      readRules node configuration.rules = .ok denoted →
      denoted ≠ [] →
      readVariables node configuration.declared = .error error →
      ReadingFault node configuration error

/-- A configuration of which all is read that is needed for a compilation. -/
structure Reads (node : Node) (configuration : Configuration)
    (denoted : List Rule) (declared : List Variable) : Prop where
  rules : readRules node configuration.rules = .ok denoted
  nonempty : denoted ≠ []
  declared : readVariables node configuration.declared = .ok declared

section

variable {node : Node} {configuration : Configuration}

theorem ReadingFault.isStructural {error : CompileError}
    (fault : ReadingFault node configuration error) :
    error.isStructural = true := by
  cases fault with
  | rules failed => exact isStructural_of_readRules failed
  | declared _ _ failed => exact isStructural_of_readVariables failed

theorem compile_of_readingFault {error : CompileError}
    (fault : ReadingFault node configuration error) (model : Model) :
    compile node model configuration = .error error := by
  rw [compile_eq_bind]
  cases fault with
  | rules failed =>
      rw [failed]
      rfl
  | declared read nonempty failed =>
      rw [read, failed]
      simp only [Except.bind, List.isEmpty_iff, if_neg nonempty]

theorem compile_of_no_rules
    (none : readRules node configuration.rules = .ok []) (model : Model) :
    compile node model configuration = .ok [] := by
  rw [compile_eq_bind, none]
  rfl

theorem Reads.compile_eq {denoted : List Rule} {declared : List Variable}
    (reads : Reads node configuration denoted declared) (model : Model) :
    compile node model configuration =
      AggregateRules.compile node model denoted declared := by
  rw [compile_eq_bind, reads.rules, reads.declared]
  simp only [Except.bind, List.isEmpty_iff, if_neg reads.nonempty]

/-- A configuration that cannot be read, one without rules, and one that is
compiled. -/
theorem readingFault_or_reads (node : Node) (configuration : Configuration) :
    (∃ error, ReadingFault node configuration error) ∨
      readRules node configuration.rules = .ok [] ∨
      ∃ denoted declared, Reads node configuration denoted declared := by
  cases rulesRead : readRules node configuration.rules with
  | error error => exact .inl ⟨error, .rules rulesRead⟩
  | ok denoted =>
      by_cases nonempty : denoted = []
      · subst nonempty
        exact .inr (.inl rfl)
      · cases declaredRead : readVariables node configuration.declared with
        | error error =>
            exact .inl ⟨error, .declared rulesRead nonempty declaredRead⟩
        | ok declared =>
            exact .inr (.inr ⟨denoted, declared,
              ⟨rulesRead, nonempty, declaredRead⟩⟩)

theorem compile_eq_error_iff {model : Model} {error : CompileError} :
    compile node model configuration = .error error ↔
      ReadingFault node configuration error ∨
        ∃ denoted declared, Reads node configuration denoted declared ∧
          AggregateRules.compile node model denoted declared =
            .error error := by
  constructor
  · intro failed
    rcases readingFault_or_reads node configuration with
      ⟨other, fault⟩ | none | ⟨denoted, declared, reads⟩
    · rw [compile_of_readingFault fault] at failed
      cases failed
      exact .inl fault
    · rw [compile_of_no_rules none] at failed
      cases failed
    · rw [reads.compile_eq] at failed
      exact .inr ⟨denoted, declared, reads, failed⟩
  · rintro (fault | ⟨denoted, declared, reads, failed⟩)
    · exact compile_of_readingFault fault model
    · rw [reads.compile_eq]
      exact failed

theorem compile_eq_error_iff_of_structural {model : Model}
    {error : CompileError} (structural : error.isStructural = true) :
    compile node model configuration = .error error ↔
      ReadingFault node configuration error := by
  constructor
  · intro failed
    rcases compile_eq_error_iff.mp failed with
      fault | ⟨denoted, declared, _, compiled⟩
    · exact fault
    · have other := notStructural_of_compile compiled
      rw [structural] at other
      cases other
  · exact fun fault => compile_of_readingFault fault model

theorem exists_reads_of_notStructural {model : Model} {error : CompileError}
    (notStructural : error.isStructural = false)
    (failed : compile node model configuration = .error error) :
    ∃ denoted declared, Reads node configuration denoted declared := by
  rcases compile_eq_error_iff.mp failed with
    fault | ⟨denoted, declared, reads, _⟩
  · rw [fault.isStructural] at notStructural
    cases notStructural
  · exact ⟨denoted, declared, reads⟩

theorem exists_error_of_illFormed {value : Json}
    (illFormed : ¬ ∃ denoted, DenotesRules value denoted) :
    ∃ error, error.isStructural = true ∧ ∀ model declared,
      compile node model ⟨value, declared⟩ = .error error := by
  cases read : readRules node value with
  | ok denoted => exact absurd ⟨denoted, readRules_eq_ok_iff.mp read⟩ illFormed
  | error error =>
      refine ⟨error, isStructural_of_readRules read, ?_⟩
      intro model declared
      have fault : ReadingFault node ⟨value, declared⟩ error := .rules read
      exact compile_of_readingFault fault model

end

/-- Errors of form are the errors of reading. Every model gives the same one,
rules that do not follow the grammar give one whatever the variables are, and
any other error is given for a configuration that has been read as a whole.
Reading gives no other errors, and compilation none of form. Where there are no
rules the block is empty; otherwise rules and variables that have been read are
compiled, and whatever comes of it is the answer. -/
theorem structural_errors_come_first (node : Node)
    (configuration : Configuration) :
    (∀ model error, error.isStructural = true →
      (compile node model configuration = .error error ↔
        ReadingFault node configuration error)) ∧
      (∀ model other error, error.isStructural = true →
        compile node model configuration = .error error →
        compile node other configuration = .error error) ∧
      ((¬ ∃ denoted, DenotesRules configuration.rules denoted) →
        ∃ error, error.isStructural = true ∧ ∀ model declared,
          compile node model ⟨configuration.rules, declared⟩ =
            .error error) ∧
      (∀ model error, error.isStructural = false →
        compile node model configuration = .error error →
        ∃ denoted declared, Reads node configuration denoted declared ∧
          DenotesRules configuration.rules denoted) ∧
      (∀ value error, readRules node value = .error error →
        error.isStructural = true) ∧
      (∀ value error, readVariables node value = .error error →
        error.isStructural = true) ∧
      (∀ model rules declared error,
        AggregateRules.compile node model rules declared = .error error →
        error.isStructural = false) ∧
      (readRules node configuration.rules = .ok [] →
        ∀ model, compile node model configuration = .ok []) ∧
      ∀ denoted declared, Reads node configuration denoted declared →
        ∀ model, compile node model configuration =
          AggregateRules.compile node model denoted declared := by
  refine ⟨?_, ?_, ?_, ?_, ?_, ?_, ?_, ?_, ?_⟩
  · exact fun model error => compile_eq_error_iff_of_structural
  · intro model other error structural failed
    have fault := (compile_eq_error_iff_of_structural structural).mp failed
    exact compile_of_readingFault fault other
  · exact exists_error_of_illFormed
  · intro model error notStructural failed
    obtain ⟨denoted, declared, reads⟩ :=
      exists_reads_of_notStructural notStructural failed
    exact ⟨denoted, declared, reads, readRules_eq_ok_iff.mp reads.rules⟩
  · exact fun value error => isStructural_of_readRules
  · exact fun value error => isStructural_of_readVariables
  · exact fun model rules declared error => notStructural_of_compile
  · exact fun none model => compile_of_no_rules none model
  · exact fun denoted declared reads model => reads.compile_eq model

end Configuration

namespace Sample

/-- A model that answers nothing. -/
def unavailable : Model where
  owningService _ := .error (.error "no service" "")
  outgoingTargets _ _ := .error (.error "no targets" "")

/-- A rule that records a qualified event. -/
def qualifiedRule : Json :=
  .object
    [("type", .string "always"),
      ("then", .object
        [("recordEvent", .object
          [("eventName", .string "Orders.Placed"), ("mapping", .string "x")])])]

/-- A qualified event before a rule of an unknown kind, and variables that are
not a list. -/
def misshapen : Configuration where
  rules := .array [qualifiedRule, .object [("type", .string "sometimes")]]
  declared := .bool true

/-- The first of these rules on its own, without any variables. -/
def qualifiedOnly : Configuration where
  rules := .array [qualifiedRule]
  declared := .null

/-- The kind of the second rule comes before the event of the first one and
before the variables, whatever the model answers. Once all rules can be read,
the event is at fault, or the model if it has no answer. -/
theorem misshapen_configuration_fails_alike :
    Configuration.compile order orders misshapen =
        .error (.unknownRuleKind "aggregate 'Order'" "sometimes") ∧
      Configuration.compile order unavailable misshapen =
        .error (.unknownRuleKind "aggregate 'Order'" "sometimes") ∧
      (∃ error, error.isStructural = true ∧ ∀ model declared,
        Configuration.compile order model ⟨misshapen.rules, declared⟩ =
          .error error) ∧
      Configuration.compile order orders qualifiedOnly =
        .error (.qualifiedEventName "aggregate 'Order'" "Orders.Placed") ∧
      Configuration.compile order unavailable qualifiedOnly =
        .error (.collaborator (.error "no service" "")) := by
  have first := Configuration.structural_errors_come_first order misshapen
  have second := Configuration.structural_errors_come_first order qualifiedOnly
  have qualified : Configuration.DenotesRule qualifiedRule (.always _) :=
    .always rfl rfl (.recordEvent rfl (.record rfl rfl .expression))
  have failed : Configuration.readRules order misshapen.rules =
      .error (.unknownRuleKind "aggregate 'Order'" "sometimes") := by
    rw [misshapen, Configuration.readRules, Configuration.readRuleItems,
      Configuration.readRule_eq_ok order qualified,
      Configuration.readRuleItems, Configuration.readRule]
    rfl
  have compiled := (first.1 orders _ rfl).mpr (.rules failed)
  have read : Configuration.readRules order qualifiedOnly.rules =
      .ok [.always (.recordEvent "Orders.Placed" (.expression ⟨"x"⟩))] :=
    Configuration.readRules_eq_ok order (.array (.cons qualified .nil))
  have reads : Configuration.Reads order qualifiedOnly _ [] :=
    ⟨read, List.cons_ne_nil _ _, rfl⟩
  have answer := second.2.2.2.2.2.2.2.2 _ [] reads
  refine ⟨compiled, first.2.1 orders unavailable _ rfl compiled, ?_, ?_, ?_⟩
  · apply first.2.2.1
    rintro ⟨denoted, denotes⟩
    cases (Configuration.readRules_eq_ok order denotes).symm.trans failed
  · rw [answer]
    decide +kernel
  · rw [answer]
    decide +kernel

end Sample

end AggregateRules
