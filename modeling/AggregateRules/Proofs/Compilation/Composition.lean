import AggregateRules.Proofs.Block.Shifting

/-!
# Texts of rules side by side and in each other

A compiled text is the declaration of the variables, an empty line, and the text
of the rules. The rules are compiled one after the other, so the text of two
lists is the text of the one, an empty line, and the text of the other. Nested
rules are compiled as if they were the only ones, and their text is moved to the
right. See `text_of_rules_composes`.
-/

namespace AggregateRules

open Compilation

theorem Rule.recordedEventsOf_append (first second : List Rule) :
    Rule.recordedEventsOf (first ++ second) =
      Rule.recordedEventsOf first ++ Rule.recordedEventsOf second := by
  induction first with
  | nil => rfl
  | cons rule rest ih =>
      rw [List.cons_append, Rule.recordedEventsOf, Rule.recordedEventsOf, ih,
        List.append_assoc]

theorem Rule.generatedList_append (service : String)
    (first second : List Rule) :
    Rule.generatedList service (first ++ second) =
      Rule.generatedList service first ++
        Rule.generatedList service second := by
  induction first with
  | nil => rfl
  | cons rule rest ih =>
      rw [List.cons_append, Rule.generatedList, Rule.generatedList, ih,
        List.cons_append]

theorem Rule.generatedList_ne_nil (service : String) {rules : List Rule}
    (nonempty : rules ≠ []) : Rule.generatedList service rules ≠ [] := by
  cases rules with
  | nil => exact absurd rfl nonempty
  | cons rule rest => exact List.cons_ne_nil _ _

theorem Compilation.separated_append {first second : List Statement}
    (firstNonempty : first ≠ []) (secondNonempty : second ≠ []) :
    separated (first ++ second) =
      separated first ++ .separator :: separated second := by
  induction first with
  | nil => exact absurd rfl firstNonempty
  | cons statement rest ih =>
      cases rest with
      | nil =>
          cases second with
          | nil => exact absurd rfl secondNonempty
          | cons next others => rfl
      | cons next others =>
          have further := ih (List.cons_ne_nil _ _)
          change statement :: .separator :: separated (next :: others ++ second)
            = statement :: .separator :: separated (next :: others) ++ _
          rw [further]
          rfl

section

variable (node : Node) (model : Model) (declared : List Variable)

/-- The checks of a behavior that records some events. -/
def checkBehavior (events : List String) : Except CompileError Unit := do
  checkVariables node [] declared
  forM events (checkEvent node model)

theorem checkBehavior_append (first second : List String) :
    checkBehavior node model declared (first ++ second) = (do
      checkBehavior node model declared first
      checkBehavior node model declared second) := by
  rw [checkBehavior, checkBehavior, checkBehavior, List.forM_append]
  cases checkVariables node [] declared with
  | error error => rfl
  | ok checked => cases forM first (checkEvent node model) <;> rfl

theorem compile_eq_map_checkBehavior {rules : List Rule}
    (nonempty : rules ≠ []) :
    compile node model rules declared =
      (checkBehavior node model declared (Rule.recordedEventsOf rules)).map
        fun _ => generatedBlock (model.serviceClass node) rules declared := by
  rw [compile_of_ne_nil nonempty, checkBehavior]
  cases checkVariables node [] declared with
  | error error => rfl
  | ok checked =>
      cases forM (Rule.recordedEventsOf rules) (checkEvent node model) <;> rfl

/-- The statements of rules in a compiled block, which follow the declaration of
the variables and a separator. -/
def rulesBlock (rules : List Rule) : Except CompileError Block :=
  (compile node model rules declared).map (List.drop 2)

theorem compile_eq_map_rulesBlock {rules : List Rule} (nonempty : rules ≠ []) :
    compile node model rules declared =
      (rulesBlock node model declared rules).map fun body =>
        [declareVariables declared, .separator] ++ body := by
  rw [rulesBlock, compile_eq_map_checkBehavior _ _ _ nonempty]
  cases checkBehavior node model declared (Rule.recordedEventsOf rules) <;> rfl

theorem rulesBlock_eq {rules : List Rule} (nonempty : rules ≠ []) :
    rulesBlock node model declared rules =
      (checkBehavior node model declared (Rule.recordedEventsOf rules)).map
        fun _ =>
          separated (Rule.generatedList (model.serviceClass node) rules) := by
  rw [rulesBlock, compile_eq_map_checkBehavior _ _ _ nonempty]
  cases checkBehavior node model declared (Rule.recordedEventsOf rules) <;> rfl

/-- Two lists of rules are compiled one after the other. -/
theorem rulesBlock_append {first second : List Rule}
    (firstNonempty : first ≠ []) (secondNonempty : second ≠ []) :
    rulesBlock node model declared (first ++ second) = (do
      let before ← rulesBlock node model declared first
      let after ← rulesBlock node model declared second
      pure (before ++ [.separator] ++ after)) := by
  have nonempty : first ++ second ≠ [] := by simp [firstNonempty]
  have generated := separated_append
    (Rule.generatedList_ne_nil (model.serviceClass node) firstNonempty)
    (Rule.generatedList_ne_nil (model.serviceClass node) secondNonempty)
  rw [rulesBlock_eq _ _ _ nonempty, rulesBlock_eq _ _ _ firstNonempty,
    rulesBlock_eq _ _ _ secondNonempty, Rule.recordedEventsOf_append,
    checkBehavior_append, Rule.generatedList_append, generated]
  cases checkBehavior node model declared (Rule.recordedEventsOf first) with
  | error error => rfl
  | ok passed =>
      cases checkBehavior node model declared
          (Rule.recordedEventsOf second) with
      | error error => rfl
      | ok passed => simp [bind, Except.bind, pure, Except.pure, Except.map]

/-- A rule around other rules is compiled as these are. -/
theorem rulesBlock_singleton (rule : Rule) {rules : List Rule}
    (around : Block → Statement) (nonempty : rules ≠ [])
    (sameEvents : rule.recordedEvents = Rule.recordedEventsOf rules)
    (surrounds : ∀ service, rule.generated service =
      around (separated (Rule.generatedList service rules))) :
    rulesBlock node model declared [rule] =
      (rulesBlock node model declared rules).map fun body => [around body] := by
  rw [rulesBlock_eq _ _ _ (List.cons_ne_nil _ _), rulesBlock_eq _ _ _ nonempty,
    Rule.recordedEventsOf, Rule.recordedEventsOf, List.append_nil, sameEvents,
    Rule.generatedList, Rule.generatedList, surrounds]
  cases checkBehavior node model declared (Rule.recordedEventsOf rules) <;> rfl

variable {node model declared}

/-- The references of compiled rules stay on their lines. -/
theorem newline_notMem_of_rulesBlock {rules : List Rule} {body : Block}
    (nonempty : rules ≠ [])
    (compiled : rulesBlock node model declared rules = .ok body) :
    ∀ name ∈ Block.references body, '\n' ∉ name.toList := by
  have whole := compile_eq_map_rulesBlock node model declared nonempty
  rw [compiled] at whole
  intro name isReference newline
  exact absurd (isWordCharacter_of_reference whole isReference _ newline)
    (by decide)

end

/-- Moves all lines of a text to the right, except for empty ones. -/
def shiftedText (width : Nat) (text : String) : String :=
  String.ofList (shifted width text.toList)

section

variable (options : RenderOptions) (node : Node) (model : Model)
  (declared : List Variable)

/-- The text of the declaration of variables, each with its initializer. -/
def headerText : String :=
  Block.render options
    [.declareVariables
      (declared.map fun entry => (entry.name, entry.initializer))]

/-- The text of rules in a compiled text, if they compile. -/
def rulesText (rules : List Rule) : Except CompileError String :=
  (rulesBlock node model declared rules).map (Block.render options)

theorem render_append (first second : Block) :
    Block.render options (first ++ second) =
      Block.render options first ++ Block.render options second := by
  rw [Block.render, Block.text_append, String.ofList_append]
  rfl

theorem render_separator : Block.render options [.separator] = "\n" :=
  rfl

theorem render_finish : Block.render options [.finish] = "return;\n" := by
  simp [Block.render, Block.text, Block.lines, Statement.lines, Line.outermost,
    Line.text, Piece.text]

/-- A compiled text is the declaration of its variables, an empty line and the
text of its rules. -/
theorem render_compile {rules : List Rule} (nonempty : rules ≠ []) :
    (compile node model rules declared).map (Block.render options) =
      (rulesText options node model declared rules).map fun body =>
        headerText options declared ++ "\n" ++ body := by
  rw [compile_eq_map_rulesBlock _ _ _ nonempty, rulesText]
  cases rulesBlock node model declared rules with
  | error error => rfl
  | ok body =>
      have text : Block.render options
            ([declareVariables declared] ++ [.separator] ++ body) =
          headerText options declared ++ "\n" ++ Block.render options body := by
        rw [render_append, render_append, render_separator]
        rfl
      exact congrArg Except.ok text

theorem rulesText_append {first second : List Rule}
    (firstNonempty : first ≠ []) (secondNonempty : second ≠ []) :
    rulesText options node model declared (first ++ second) = (do
      let before ← rulesText options node model declared first
      let after ← rulesText options node model declared second
      pure (before ++ "\n" ++ after)) := by
  rw [rulesText, rulesBlock_append _ _ _ firstNonempty secondNonempty,
    rulesText, rulesText]
  cases rulesBlock node model declared first with
  | error error => rfl
  | ok before =>
      cases rulesBlock node model declared second with
      | error error => rfl
      | ok after =>
          have text : Block.render options (before ++ [.separator] ++ after) =
              Block.render options before ++ "\n" ++
                Block.render options after := by
            rw [render_append, render_append, render_separator]
          exact congrArg Except.ok text

/-- The text of a rule around other rules, where the statement around theirs is
rendered from their text. -/
theorem rulesText_singleton (rule : Rule) {rules : List Rule}
    (around : Block → Statement) (surround : String → String)
    (nonempty : rules ≠ [])
    (sameEvents : rule.recordedEvents = Rule.recordedEventsOf rules)
    (surrounds : ∀ service, rule.generated service =
      around (separated (Rule.generatedList service rules)))
    (renders : ∀ body,
      (∀ name ∈ Block.references body, '\n' ∉ name.toList) →
      Block.render options [around body] =
        surround (Block.render options body)) :
    rulesText options node model declared [rule] =
      (rulesText options node model declared rules).map surround := by
  rw [rulesText, rulesBlock_singleton node model declared rule around nonempty
    sameEvents surrounds, rulesText]
  cases compiled : rulesBlock node model declared rules with
  | error error => rfl
  | ok body =>
      have single := newline_notMem_of_rulesBlock nonempty compiled
      exact congrArg Except.ok (renders body single)

variable {options}
variable (store : '\n' ∉ options.store.toList)
  (evaluator : '\n' ∉ options.evaluator.toList)

include store evaluator

theorem render_scope {body : Block}
    (single : ∀ name ∈ Block.references body, '\n' ∉ name.toList) :
    Block.render options [.scope body] =
      "\x7b\n" ++ shiftedText options.indent (Block.render options body) ++
        "\x7d\n" := by
  have deeper := Block.deeperText_eq_shifted store evaluator single
  apply String.toList_injective
  simp [Block.render, Block.text_scope, deeper, shiftedText]

theorem render_branch (condition : Condition) {first second : Block}
    (single : ∀ name ∈ Block.references first, '\n' ∉ name.toList)
    (alsoSingle : ∀ name ∈ Block.references second, '\n' ∉ name.toList) :
    Block.render options [.branch condition (first ++ second)] =
      condition.opening options ++
        shiftedText options.indent (Block.render options first) ++
        shiftedText options.indent (Block.render options second) ++
        "\x7d\n" := by
  have deeper := Block.deeperText_eq_shifted store evaluator single
  have alsoDeeper := Block.deeperText_eq_shifted store evaluator alsoSingle
  apply String.toList_injective
  simp [Block.render, Block.text_branch, Block.deeperText_append, deeper,
    alsoDeeper, shiftedText]

/-- The statements of a condition rule around other rules. -/
theorem render_branch_around (condition : Condition) (stop : Bool)
    {body : Block}
    (single : ∀ name ∈ Block.references body, '\n' ∉ name.toList) :
    Block.render options
        [.branch condition
          (if stop then [.scope body, .finish] else [.scope body])] =
      condition.opening options ++
        shiftedText options.indent
          ("\x7b\n" ++ shiftedText options.indent (Block.render options body) ++
            "\x7d\n") ++
        (if stop then shiftedText options.indent "return;\n" else "") ++
        "\x7d\n" := by
  have around :
      ∀ name ∈ Block.references [.scope body], '\n' ∉ name.toList := by
    have sameReferences : Block.references [.scope body] =
        Block.references body := by
      simp [Block.references, Block.productions, Statement.productions]
    rwa [sameReferences]
  have scope := render_scope store evaluator single
  cases stop with
  | false =>
      have nothing : shiftedText options.indent (Block.render options []) =
          "" := rfl
      have branch := @render_branch options store evaluator condition
        [.scope body] [] around
        (by simp [Block.references, Block.productions])
      rw [List.append_nil, scope, nothing] at branch
      simp only [Bool.false_eq_true, if_false]
      exact branch
  | true =>
      have branch := @render_branch options store evaluator condition
        [.scope body] [.finish] around
        (by simp [Block.references, Block.productions, Statement.productions])
      rw [scope, render_finish] at branch
      simp only [if_true]
      exact branch

/-- The text of a behavior is the declaration of its variables, an empty line
and the text of its rules. The text of two lists of rules is that of the one, an
empty line and that of the other; if one of them does not compile, there is its
error, the first one first. Rules around other rules compile if these do, and
have their text within them, moved to the right. -/
theorem text_of_rules_composes :
    (∀ rules, rules ≠ [] →
      (compile node model rules declared).map (Block.render options) =
        (rulesText options node model declared rules).map fun body =>
          headerText options declared ++ "\n" ++ body) ∧
    (∀ first second, first ≠ [] → second ≠ [] →
      rulesText options node model declared (first ++ second) = (do
        let before ← rulesText options node model declared first
        let after ← rulesText options node model declared second
        pure (before ++ "\n" ++ after))) ∧
    ∀ rules, rules ≠ [] →
      rulesText options node model declared [.always (.executeRules rules)] =
        (rulesText options node model declared rules).map (fun body =>
          "\x7b\n" ++ shiftedText options.indent body ++ "\x7d\n") ∧
      ∀ condition stop,
        rulesText options node model declared
            [.condition condition (.executeRules rules) stop] =
          (rulesText options node model declared rules).map fun body =>
            condition.opening options ++
              shiftedText options.indent
                ("\x7b\n" ++ shiftedText options.indent body ++ "\x7d\n") ++
              (if stop then shiftedText options.indent "return;\n" else "") ++
              "\x7d\n" := by
  refine ⟨?_, ?_, ?_⟩
  · intro rules nonempty
    exact render_compile options node model declared nonempty
  · intro first second firstNonempty secondNonempty
    exact rulesText_append options node model declared firstNonempty
      secondNonempty
  · intro rules nonempty
    constructor
    · apply rulesText_singleton options node model declared _ .scope _ nonempty
        rfl fun _ => rfl
      intro body single
      exact render_scope store evaluator single
    · intro condition stop
      apply rulesText_singleton options node model declared _
        (fun body => .branch condition
          (if stop then [.scope body, .finish] else [.scope body]))
        _ nonempty rfl fun _ => rfl
      intro body single
      exact render_branch_around store evaluator condition stop single

end

namespace Sample

/-- Options whose names are no identifiers, but stay on their lines. -/
def oddOptions : RenderOptions :=
  { indent := 2, store := "my vars", evaluator := "" }

/-- A rule whose expressions and fields do not stay on their lines. -/
def multilineRules : List Rule :=
  [.always (.recordEvent "order placed"
    (.ofFields [("a\nb", ⟨"1\n+\n2"⟩)]))]

def multilineDeclared : List Variable :=
  [⟨"unit price", ⟨"sum /\nquantity"⟩⟩]

end Sample

open Sample

theorem multiline_rules_compose :
    '\n' ∉ oddOptions.store.toList ∧ '\n' ∉ oddOptions.evaluator.toList ∧
      (compile order orders multilineRules multilineDeclared).map
          (Block.render oddOptions) =
        .ok ("const my vars = \x7b\x7d;\n" ++
          "my vars[\"unit price\"] = " ++
          "await (\"sum /\\nquantity\", my vars);\n" ++
          "\nyield new Orders.OrderPlaced(\x7b\n" ++
          "  \"a\\nb\": await (\"1\\n+\\n2\", my vars),\n\x7d);\n") ∧
      rulesText oddOptions order orders multilineDeclared
          (multilineRules ++ multilineRules) =
        .ok ("yield new Orders.OrderPlaced(\x7b\n" ++
          "  \"a\\nb\": await (\"1\\n+\\n2\", my vars),\n\x7d);\n" ++
          "\nyield new Orders.OrderPlaced(\x7b\n" ++
          "  \"a\\nb\": await (\"1\\n+\\n2\", my vars),\n\x7d);\n") ∧
      rulesText oddOptions order orders multilineDeclared
          [.condition ⟨⟨"ok"⟩, true⟩ (.executeRules multilineRules) true] =
        .ok ("if (!(await (\"ok\", my vars))) \x7b\n  \x7b\n" ++
          "    yield new Orders.OrderPlaced(\x7b\n" ++
          "      \"a\\nb\": await (\"1\\n+\\n2\", my vars),\n    \x7d);\n" ++
          "  \x7d\n  return;\n\x7d\n") := by
  have store : '\n' ∉ oddOptions.store.toList := by decide
  have evaluator : '\n' ∉ oddOptions.evaluator.toList := by decide
  obtain ⟨whole, append, nested⟩ :=
    text_of_rules_composes order orders multilineDeclared store evaluator
  have nonempty : multilineRules ≠ [] := by decide
  have body :
      rulesText oddOptions order orders multilineDeclared multilineRules =
        .ok ("yield new Orders.OrderPlaced(\x7b\n" ++
          "  \"a\\nb\": await (\"1\\n+\\n2\", my vars),\n\x7d);\n") := by
    decide +kernel
  refine ⟨store, evaluator, ?_, ?_, ?_⟩
  · rw [whole _ nonempty, body]
    decide +kernel
  · rw [append _ _ nonempty nonempty, body]
    decide +kernel
  · rw [(nested _ nonempty).2, body]
    decide +kernel

end AggregateRules
