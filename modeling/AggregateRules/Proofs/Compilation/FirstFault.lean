import AggregateRules.Proofs.Compilation.Generation

/-!
# The first fault of a behavior

Which error compilation gives is settled before any code is generated: by the
first variable whose name is reserved or stands there already, and after that by
the first recorded event that the model does not allow. Which rules surround the
event, and what else is wrong behind it, does not matter.
-/

namespace AggregateRules

open Compilation

/-- The names of variables that can be declared together. -/
structure ProperNames (declared : List Variable) : Prop where
  unreserved : ∀ entry ∈ declared, entry.name ≠ reservedName
  distinct : (declared.map Variable.name).Nodup

/-- The error of a variable behind variables of the given names. -/
inductive VariableFault (node : Node) (earlier : List String)
    (entry : Variable) : CompileError → Prop where
  | reserved :
      entry.name = reservedName →
      VariableFault node earlier entry
        (.reservedVariableName node.describe entry.name)
  | repeated :
      entry.name ≠ reservedName →
      entry.name ∈ earlier →
      VariableFault node earlier entry
        (.duplicateVariable node.describe entry.name)

/-- The error of the first variable that cannot be declared. -/
def FirstVariableFault (node : Node) (declared : List Variable)
    (error : CompileError) : Prop :=
  ∃ before entry after, declared = before ++ entry :: after ∧
    ProperNames before ∧
    VariableFault node (before.map Variable.name) entry error

theorem checkVariables_cons_of_fault {node : Node} {earlier : List String}
    {entry : Variable} {rest : List Variable} {error : CompileError}
    (fault : VariableFault node earlier entry error) :
    checkVariables node earlier (entry :: rest) = .error error := by
  cases fault with
  | reserved isReserved => rw [checkVariables, if_pos isReserved]
  | repeated unreserved again =>
      rw [checkVariables, if_neg unreserved, if_pos again]

theorem checkVariables_cons_of_proper {node : Node} {earlier : List String}
    {entry : Variable} {rest : List Variable}
    (unreserved : entry.name ≠ reservedName) (fresh : entry.name ∉ earlier) :
    checkVariables node earlier (entry :: rest) =
      checkVariables node (entry.name :: earlier) rest := by
  rw [checkVariables, if_neg unreserved, if_neg fresh]

theorem fault_or_fresh (node : Node) (earlier : List String)
    (entry : Variable) :
    (∃ error, VariableFault node earlier entry error) ∨
      entry.name ≠ reservedName ∧ entry.name ∉ earlier := by
  by_cases isReserved : entry.name = reservedName
  · exact .inl ⟨_, .reserved isReserved⟩
  · by_cases again : entry.name ∈ earlier
    · exact .inl ⟨_, .repeated isReserved again⟩
    · exact .inr ⟨isReserved, again⟩

theorem checkVariables_eq_ok_iff {node : Node} {earlier : List String}
    {declared : List Variable} :
    checkVariables node earlier declared = .ok () ↔
      ProperNames declared ∧ ∀ entry ∈ declared, entry.name ∉ earlier := by
  induction declared generalizing earlier with
  | nil => exact ⟨fun _ => ⟨⟨by simp, by simp⟩, by simp⟩, fun _ => rfl⟩
  | cons entry rest ih =>
      rcases fault_or_fresh node earlier entry with
        ⟨error, fault⟩ | ⟨unreserved, fresh⟩
      · constructor
        · intro passed
          rw [checkVariables_cons_of_fault fault] at passed
          cases passed
        · rintro ⟨proper, apart⟩
          cases fault with
          | reserved isReserved =>
              exact absurd isReserved (proper.unreserved entry (by simp))
          | repeated _ again => exact absurd again (apart entry (by simp))
      · rw [checkVariables_cons_of_proper unreserved fresh, ih]
        constructor
        · rintro ⟨proper, apart⟩
          refine ⟨⟨?_, ?_⟩, ?_⟩
          · exact List.forall_mem_cons.mpr ⟨unreserved, proper.unreserved⟩
          · refine List.nodup_cons.mpr ⟨?_, proper.distinct⟩
            intro member
            obtain ⟨other, isLater, sameName⟩ := List.mem_map.mp member
            exact apart other isLater (by simp [sameName])
          · refine List.forall_mem_cons.mpr ⟨fresh, ?_⟩
            intro other isLater isEarlier
            exact apart other isLater (List.mem_cons_of_mem _ isEarlier)
        · rintro ⟨⟨unreservedAll, distinct⟩, apart⟩
          have headApart := (List.nodup_cons.mp distinct).1
          refine ⟨⟨?_, (List.nodup_cons.mp distinct).2⟩, ?_⟩
          · exact (List.forall_mem_cons.mp unreservedAll).2
          · intro other isLater member
            rcases List.mem_cons.mp member with isHead | isEarlier
            · exact headApart (isHead ▸ List.mem_map_of_mem isLater)
            · exact apart other (List.mem_cons_of_mem _ isLater) isEarlier

theorem checkVariables_append_of_ok {node : Node} {earlier : List String}
    {before after : List Variable}
    (passed : checkVariables node earlier before = .ok ()) :
    checkVariables node earlier (before ++ after) =
      checkVariables node ((before.map Variable.name).reverse ++ earlier)
        after := by
  induction before generalizing earlier with
  | nil => rfl
  | cons entry rest ih =>
      rcases fault_or_fresh node earlier entry with
        ⟨error, fault⟩ | ⟨unreserved, fresh⟩
      · rw [checkVariables_cons_of_fault fault] at passed
        cases passed
      · rw [checkVariables_cons_of_proper unreserved fresh] at passed
        rw [List.cons_append, checkVariables_cons_of_proper unreserved fresh,
          ih passed]
        simp

theorem checkVariables_of_firstFault {node : Node} {declared : List Variable}
    {error : CompileError} (first : FirstVariableFault node declared error) :
    checkVariables node [] declared = .error error := by
  obtain ⟨before, entry, after, rfl, proper, fault⟩ := first
  have passed : checkVariables node [] before = .ok () :=
    checkVariables_eq_ok_iff.mpr ⟨proper, by simp⟩
  rw [checkVariables_append_of_ok passed, List.append_nil]
  apply checkVariables_cons_of_fault
  cases fault with
  | reserved isReserved => exact .reserved isReserved
  | repeated unreserved again =>
      exact .repeated unreserved (List.mem_reverse.mpr again)

theorem ProperNames.concat {initial : List Variable} {entry : Variable}
    (proper : ProperNames initial) (unreserved : entry.name ≠ reservedName)
    (fresh : entry.name ∉ initial.map Variable.name) :
    ProperNames (initial ++ [entry]) := by
  constructor
  · refine List.forall_mem_append.mpr ⟨proper.unreserved, ?_⟩
    exact List.forall_mem_singleton.mpr unreserved
  · rw [List.map_append]
    refine List.nodup_append.mpr ⟨proper.distinct, by simp, ?_⟩
    intro name isEarlier last isLast same
    have isEntry : last = entry.name := by simpa using isLast
    exact fresh (isEntry ▸ same ▸ isEarlier)

theorem proper_or_firstVariableFault (node : Node) {initial : List Variable}
    (proper : ProperNames initial) (rest : List Variable) :
    ProperNames (initial ++ rest) ∨
      ∃ error, FirstVariableFault node (initial ++ rest) error := by
  induction rest generalizing initial with
  | nil =>
      left
      rwa [List.append_nil]
  | cons entry rest ih =>
      rcases fault_or_fresh node (initial.map Variable.name) entry with
        ⟨error, fault⟩ | ⟨unreserved, fresh⟩
      · exact .inr ⟨error, initial, entry, rest, rfl, proper, fault⟩
      · have longer := ih (proper.concat unreserved fresh)
        rwa [List.append_assoc, List.singleton_append] at longer

theorem exists_firstVariableFault_iff {node : Node}
    {declared : List Variable} :
    (∃ error, FirstVariableFault node declared error) ↔
      ¬ ProperNames declared := by
  constructor
  · rintro ⟨error, first⟩ proper
    have passed : checkVariables node [] declared = .ok () :=
      checkVariables_eq_ok_iff.mpr ⟨proper, by simp⟩
    rw [checkVariables_of_firstFault first] at passed
    cases passed
  · intro improper
    have none : ProperNames [] := ⟨by simp, by simp⟩
    rcases proper_or_firstVariableFault node none declared with
      proper | faulty
    · exact absurd proper improper
    · exact faulty

/-- A name that generated code can refer to. -/
def StartsWithLetter (name : String) : Prop :=
  ∃ first rest, name.toList = first :: rest ∧ Unicode.isAlphabetic first

/-- The error of a recorded event. Each cause supposes that none of the earlier
ones applies. -/
inductive EventFault (node : Node) (model : Model) (event : String) :
    CompileError → Prop where
  | unknownService :
      model.owningService node = .error diagnostic →
      EventFault node model event (.collaborator diagnostic)
  | qualified :
      model.owningService node = .ok service →
      '.' ∈ event.toList →
      EventFault node model event (.qualifiedEventName node.describe event)
  | unknownTargets :
      model.owningService node = .ok service →
      '.' ∉ event.toList →
      model.outgoingTargets node .event = .error diagnostic →
      EventFault node model event (.collaborator diagnostic)
  | notConnected :
      model.owningService node = .ok service →
      '.' ∉ event.toList →
      model.outgoingTargets node .event = .ok targets →
      (∀ target ∈ targets, Label.sameClass target.name event = false) →
      EventFault node model event (.eventNotConnected node.describe event)
  | unusableService :
      model.owningService node = .ok service →
      '.' ∉ event.toList →
      model.outgoingTargets node .event = .ok targets →
      targets.find? (fun target => Label.sameClass target.name event) =
        some target →
      ¬ StartsWithLetter (Label.className service) →
      EventFault node model event
        (.invalidClassName node.describe service (Label.className service))
  | unusableTarget :
      model.owningService node = .ok service →
      '.' ∉ event.toList →
      model.outgoingTargets node .event = .ok targets →
      targets.find? (fun target => Label.sameClass target.name event) =
        some target →
      StartsWithLetter (Label.className service) →
      ¬ StartsWithLetter (Label.className target.name) →
      EventFault node model event
        (.invalidClassName node.describe target.name
          (Label.className target.name))

def FirstEventFault (node : Node) (model : Model) (events : List String)
    (error : CompileError) : Prop :=
  ∃ before event after, events = before ++ event :: after ∧
    (∀ earlier ∈ before, ∀ other, ¬ EventFault node model earlier other) ∧
    EventFault node model event error

theorem usableClassName_eq_ok_of_letter {node : Node} {label : String}
    (letter : StartsWithLetter (Label.className label)) :
    usableClassName node label = .ok (Label.className label) := by
  obtain ⟨first, rest, starts, alphabetic⟩ := letter
  simp [usableClassName, starts, alphabetic]

theorem usableClassName_eq_error_of_noLetter {node : Node} {label : String}
    (noLetter : ¬ StartsWithLetter (Label.className label)) :
    usableClassName node label =
      .error (.invalidClassName node.describe label
        (Label.className label)) := by
  unfold usableClassName
  dsimp only
  rw [if_neg]
  intro usable
  cases starts : (Label.className label).toList with
  | nil => simp [starts] at usable
  | cons first rest =>
      rw [starts] at usable
      exact noLetter ⟨first, rest, starts, by simpa using usable⟩

theorem checkEvent_of_fault {node : Node} {model : Model} {event : String}
    {error : CompileError} (fault : EventFault node model event error) :
    checkEvent node model event = .error error := by
  suffices failed :
      recordEvent node model event (.fields .empty) = .error error by
    rw [checkEvent, failed]
    rfl
  have isQualifier : qualifierSeparator = '.' := rfl
  unfold recordEvent
  cases fault with
  | unknownService asked =>
      simp [asked, bind, Except.bind]
  | qualified asked dotted =>
      simp [asked, bind, Except.bind, isQualifier,
        dotted]
  | unknownTargets asked bare refused =>
      simp [asked, bind, Except.bind, isQualifier,
        bare, refused]
  | notConnected asked bare known apart =>
      have absent := List.find?_eq_none.mpr fun target member =>
        Bool.not_eq_true _ ▸ apart target member
      simp [asked, bind, Except.bind, isQualifier,
        bare, known, absent]
  | unusableService asked bare known found noLetter =>
      simp [asked, bind, Except.bind, isQualifier,
        bare, known, found, usableClassName_eq_error_of_noLetter noLetter]
  | unusableTarget asked bare known found letter noLetter =>
      simp [asked, bind, Except.bind, isQualifier,
        bare, known, found, usableClassName_eq_ok_of_letter letter,
        usableClassName_eq_error_of_noLetter noLetter]

/-- The causes are complete: an event without any of them passes its checks. -/
theorem checkEvent_or_fault (node : Node) (model : Model) (event : String) :
    checkEvent node model event = .ok () ∨
      ∃ error, EventFault node model event error := by
  cases asked : model.owningService node with
  | error diagnostic => exact .inr ⟨_, .unknownService asked⟩
  | ok service =>
      by_cases dotted : '.' ∈ event.toList
      · exact .inr ⟨_, .qualified asked dotted⟩
      · cases known : model.outgoingTargets node .event with
        | error diagnostic =>
            exact .inr ⟨_, .unknownTargets asked dotted known⟩
        | ok targets =>
            cases found : targets.find? fun target =>
                Label.sameClass target.name event with
            | none =>
                refine .inr ⟨_, .notConnected asked dotted known ?_⟩
                intro target member
                simpa using List.find?_eq_none.mp found target member
            | some target =>
                by_cases letter : StartsWithLetter (Label.className service)
                · by_cases targetLetter :
                      StartsWithLetter (Label.className target.name)
                  · left
                    have isQualifier : qualifierSeparator = '.' := rfl
                    simp [checkEvent, recordEvent, asked, bind, Except.bind,
                      isQualifier, dotted, known, found,
                      usableClassName_eq_ok_of_letter letter,
                      usableClassName_eq_ok_of_letter targetLetter, Except.map]
                  · exact .inr ⟨_, .unusableTarget asked dotted known found
                      letter targetLetter⟩
                · exact .inr ⟨_, .unusableService asked dotted known found
                    letter⟩

theorem checkEvent_eq_error_iff {node : Node} {model : Model} {event : String}
    {error : CompileError} :
    checkEvent node model event = .error error ↔
      EventFault node model event error := by
  constructor
  · intro failed
    rcases checkEvent_or_fault node model event with passed | ⟨other, fault⟩
    · rw [passed] at failed
      cases failed
    · rw [checkEvent_of_fault fault] at failed
      cases failed
      exact fault
  · exact checkEvent_of_fault

theorem checkEvent_eq_ok_iff {node : Node} {model : Model} {event : String} :
    checkEvent node model event = .ok () ↔
      ∀ error, ¬ EventFault node model event error := by
  constructor
  · intro passed error fault
    rw [checkEvent_of_fault fault] at passed
    cases passed
  · intro sound
    rcases checkEvent_or_fault node model event with passed | ⟨error, fault⟩
    · exact passed
    · exact absurd fault (sound error)

theorem forM_checkEvent_eq_error_iff {node : Node} {model : Model}
    {events : List String} {error : CompileError} :
    forM events (checkEvent node model) = .error error ↔
      FirstEventFault node model events error := by
  rw [forM_eq_error_iff]
  simp only [FirstEventFault, checkEvent_eq_ok_iff, checkEvent_eq_error_iff]

section

variable {node : Node} {model : Model} {rules : List Rule}
  {declared : List Variable} {error : CompileError}

theorem compile_of_firstVariableFault (nonempty : rules ≠ [])
    (first : FirstVariableFault node declared error) :
    compile node model rules declared = .error error := by
  rw [compile_of_ne_nil nonempty, checkVariables_of_firstFault first]
  rfl

theorem compile_of_firstEventFault (nonempty : rules ≠ [])
    (proper : ProperNames declared)
    (first : FirstEventFault node model (Rule.recordedEventsOf rules) error) :
    compile node model rules declared = .error error := by
  have passed : checkVariables node [] declared = .ok () :=
    checkVariables_eq_ok_iff.mpr ⟨proper, by simp⟩
  rw [compile_of_ne_nil nonempty, passed,
    forM_checkEvent_eq_error_iff.mpr first]
  rfl

theorem fault_of_compile_eq_error
    (failed : compile node model rules declared = .error error) :
    FirstVariableFault node declared error ∨
      FirstEventFault node model (Rule.recordedEventsOf rules) error := by
  have nonempty : rules ≠ [] := by
    rintro rfl
    cases failed
  rw [compile_of_ne_nil nonempty] at failed
  by_cases proper : ProperNames declared
  · right
    have passed : checkVariables node [] declared = .ok () :=
      checkVariables_eq_ok_iff.mpr ⟨proper, by simp⟩
    apply forM_checkEvent_eq_error_iff.mp
    rw [passed] at failed
    cases checked : forM (Rule.recordedEventsOf rules)
        (checkEvent node model) with
    | ok value =>
        rw [checked] at failed
        cases failed
    | error other =>
        rw [checked] at failed
        cases failed
        rfl
  · left
    obtain ⟨other, first⟩ := exists_firstVariableFault_iff.mpr proper
    rw [checkVariables_of_firstFault first] at failed
    cases failed
    exact first

end

/-- What a behavior with rules compiles to is settled by its variables and by
the events that it records. -/
theorem compile_settled_by_first_fault {node : Node} {model : Model}
    {rules : List Rule} {declared : List Variable} (nonempty : rules ≠ []) :
    ((∃ error, FirstVariableFault node declared error) ↔
        ¬ ProperNames declared) ∧
      (∀ error, FirstVariableFault node declared error →
        compile node model rules declared = .error error) ∧
      (ProperNames declared →
        (Rule.recordedEventsOf rules = [] →
          ∃ block, compile node model rules declared = .ok block) ∧
        ((∃ error, compile node model rules declared = .error error) ↔
          ∃ event ∈ Rule.recordedEventsOf rules,
            ∃ error, EventFault node model event error) ∧
        ∀ error, compile node model rules declared = .error error ↔
          FirstEventFault node model (Rule.recordedEventsOf rules) error) ∧
      ∀ diagnostic, (CompileError.collaborator diagnostic).diagnostic =
        diagnostic := by
  refine ⟨exists_firstVariableFault_iff, ?_, ?_, fun _ => rfl⟩
  · intro error first
    rw [compile_of_ne_nil nonempty, checkVariables_of_firstFault first]
    rfl
  · intro proper
    have passed : checkVariables node [] declared = .ok () :=
      checkVariables_eq_ok_iff.mpr ⟨proper, by simp⟩
    have firstFault (error : CompileError) :
        compile node model rules declared = .error error ↔
          FirstEventFault node model (Rule.recordedEventsOf rules) error := by
      rw [← forM_checkEvent_eq_error_iff, compile_of_ne_nil nonempty, passed]
      cases forM (Rule.recordedEventsOf rules) (checkEvent node model) with
      | error other => simp [bind, Except.bind]
      | ok checked => simp [bind, Except.bind, pure, Except.pure]
    refine ⟨?_, ?_, firstFault⟩
    · intro noEvents
      refine ⟨_, (compile_eq_ok_iff nonempty).mpr ⟨passed, ?_, rfl⟩⟩
      simp [noEvents]
    · constructor
      · rintro ⟨error, failed⟩
        obtain ⟨before, event, after, split, _, fault⟩ :=
          (firstFault error).mp failed
        exact ⟨event, by simp [split], error, fault⟩
      · rintro ⟨event, member, error, fault⟩
        cases outcome : compile node model rules declared with
        | error first => exact ⟨first, rfl⟩
        | ok block =>
            have checked :=
              ((compile_eq_ok_iff nonempty).mp outcome).2.1 event member
            exact absurd fault (checkEvent_eq_ok_iff.mp checked error)

/-- Rules that go on with an unconnected event and with a qualified one. -/
def Sample.brokenRules : List Rule :=
  Sample.rules ++
    [.always (.executeRules
        [.always (.recordEvent "Shipped" (.expression ⟨"x"⟩))]),
      .always (.recordEvent "Orders.Placed" (.expression ⟨"x"⟩))]

/-- The second `sum` comes before the reserved name, and the unconnected event
before the qualified one. -/
theorem broken_rules_first_faults :
    compile Sample.order Sample.orders Sample.brokenRules
        [⟨"sum", ⟨"1"⟩⟩, ⟨"sum", ⟨"2"⟩⟩, ⟨"__proto__", ⟨"3"⟩⟩] =
        .error (.duplicateVariable "aggregate 'Order'" "sum") ∧
      compile Sample.order Sample.orders Sample.brokenRules Sample.declared =
        .error (.eventNotConnected "aggregate 'Order'" "Shipped") := by
  have nonempty : Sample.brokenRules ≠ [] := by simp [Sample.brokenRules]
  constructor
  · apply (compile_settled_by_first_fault nonempty).2.1
    exact ⟨[⟨"sum", ⟨"1"⟩⟩], ⟨"sum", ⟨"2"⟩⟩, [⟨"__proto__", ⟨"3"⟩⟩], rfl,
      ⟨by decide, by decide⟩, .repeated (by decide) (by decide)⟩
  · have proper : ProperNames Sample.declared := ⟨by decide, by decide⟩
    refine (((compile_settled_by_first_fault nonempty).2.2.1 proper).2.2
      _).mpr ?_
    exact forM_checkEvent_eq_error_iff.mp (by decide +kernel)

end AggregateRules
