import AggregateRules.Configuration.Basic
import AggregateRules.Proofs.Json.Reader

/-!
# Records that are read from texts

The JSON values that a record holds have distinct names when the record was read
from a text, because each of them was read from a part of it. So this holds of
every configuration that can be loaded, see `distinct_of_load`.
-/

namespace AggregateRules

open Json.Reader

/-- What a field holds, if it is a JSON value, has distinct names. -/
def FieldShape.Distinct : (shape : FieldShape) → shape.Carrier → Prop
  | .json, value => value.distinct = true
  | .text, _ | .nodeKind, _ | .severity, _ => True

def Row.Distinct : (fields : List Field) → Row fields → Prop
  | [], () => True
  | field :: rest, (held, more) =>
      field.shape.Distinct held ∧ Row.Distinct rest more

def PartialRow.Distinct : (fields : List Field) → PartialRow fields → Prop
  | [], () => True
  | field :: rest, (known, others) =>
      (∀ held ∈ known, field.shape.Distinct held) ∧
        PartialRow.Distinct rest others

theorem FieldShape.gives_ofText (shape : FieldShape) (depth : Nat) :
    Gives shape.Distinct (shape.ofText depth) := by
  intro text result rest read
  cases shape with
  | json => exact distinct_of_value depth read
  | text | nodeKind | severity => exact trivial

theorem PartialRow.keeps_readMember (depth : Nat) (fields : List Field) :
    Keeps (PartialRow.Distinct fields) (readMember depth fields) := by
  intro known name distinct text result rest read
  induction fields generalizing text rest with
  | nil => exact trivial
  | cons field rest ih =>
      obtain ⟨held, others⟩ := known
      rw [readMember] at read
      split at read
      · split at read
        · cases read
        · obtain ⟨value, -, read⟩ := Except.bind_eq_ok_iff.mp read
          obtain ⟨⟨found, behind⟩, isFound, read⟩ :=
            Except.bind_eq_ok_iff.mp read
          cases read
          refine ⟨?_, distinct.2⟩
          rintro _ ⟨⟩
          exact field.shape.gives_ofText depth isFound
      · obtain ⟨⟨more, behind⟩, isMore, read⟩ := Except.bind_eq_ok_iff.mp read
        cases read
        exact ⟨distinct.1, ih distinct.2 isMore⟩

/-- Fields that are filled in have distinct names. -/
def DistinctFallbacks (fields : List Field) : Prop :=
  ∀ field ∈ fields, ∀ held ∈ field.fallback, field.shape.Distinct held

theorem eq_some_of_elim {known : Option α} {fault : ε} {held : α}
    (given : known.elim (Except.error fault) Except.ok = .ok held) :
    known = some held := by
  cases known with
  | none => cases given
  | some value =>
      cases given
      rfl

theorem PartialRow.distinct_of_complete {fields : List Field}
    (fallbacks : DistinctFallbacks fields) {known : PartialRow fields}
    (distinct : PartialRow.Distinct fields known) {row : Row fields}
    (completed : complete fields known = .ok row) :
    Row.Distinct fields row := by
  induction fields with
  | nil => exact trivial
  | cons field rest ih =>
      obtain ⟨first, others⟩ := known
      obtain ⟨here, later⟩ := List.forall_mem_cons.mp fallbacks
      obtain ⟨held, given, completed⟩ := Except.bind_eq_ok_iff.mp completed
      obtain ⟨more, completeMore, completed⟩ :=
        Except.bind_eq_ok_iff.mp completed
      cases completed
      refine ⟨?_, ih later distinct.2 completeMore⟩
      have isHeld := eq_some_of_elim given
      cases first with
      | none => exact here held isHeld
      | some value => exact distinct.1 held isHeld

theorem RecordShape.gives_rowOfText (record : RecordShape) (depth : Nat)
    {fields : List Field} (fallbacks : DistinctFallbacks fields)
    (taken : Nat) :
    Gives (Row.Distinct fields) (record.rowOfText depth fields taken) := by
  intro text row behind read
  induction fields generalizing taken text behind with
  | nil => exact trivial
  | cons field rest ih =>
      obtain ⟨here, later⟩ := List.forall_mem_cons.mp fallbacks
      obtain ⟨item, -, read⟩ := Except.bind_eq_ok_iff.mp read
      cases item with
      | none =>
          obtain ⟨held, given, read⟩ := Except.bind_eq_ok_iff.mp read
          obtain ⟨⟨more, left⟩, readMore, read⟩ :=
            Except.bind_eq_ok_iff.mp read
          cases read
          exact ⟨here held (eq_some_of_elim given), ih later _ readMore⟩
      | some item =>
          obtain ⟨⟨held, left⟩, isHeld, read⟩ := Except.bind_eq_ok_iff.mp read
          obtain ⟨⟨more, after⟩, readMore, read⟩ :=
            Except.bind_eq_ok_iff.mp read
          cases read
          exact ⟨field.shape.gives_ofText depth isHeld, ih later _ readMore⟩

theorem PartialRow.distinct_empty (fields : List Field) :
    PartialRow.Distinct fields (PartialRow.empty fields) := by
  induction fields with
  | nil => exact trivial
  | cons field rest ih => exact ⟨by simp, ih⟩

/-- A record that is read has distinct names in all that its fields hold. -/
theorem RecordShape.gives_ofText (record : RecordShape)
    (fallbacks : DistinctFallbacks record.fields) (depth : Nat) :
    Gives (Row.Distinct record.fields) (record.ofText depth) := by
  intro text row behind read
  rw [ofText] at read
  split at read
  · cases read
  · split at read
    · cases read
    · obtain ⟨⟨row, left⟩, isRow, read⟩ := Except.bind_eq_ok_iff.mp read
      obtain ⟨after, -, read⟩ := Except.bind_eq_ok_iff.mp read
      cases read
      exact record.gives_rowOfText _ fallbacks 0 isRow
  · split at read
    · cases read
    · obtain ⟨⟨known, left⟩, isKnown, read⟩ := Except.bind_eq_ok_iff.mp read
      obtain ⟨found, shaped, read⟩ := Except.bind_eq_ok_iff.mp read
      cases read
      have distinct : PartialRow.Distinct record.fields known :=
        gives_members (PartialRow.keeps_readMember _ record.fields)
          (PartialRow.distinct_empty record.fields) isKnown
      cases completed : PartialRow.complete record.fields known with
      | error fault =>
          rw [completed] at shaped
          cases shaped
      | ok row =>
          rw [completed] at shaped
          cases shaped
          exact PartialRow.distinct_of_complete fallbacks distinct completed
  · cases read

namespace Configuration

/-- Whether the members of each object in a configuration have distinct names.
-/
def distinct (configuration : Configuration) : Bool :=
  configuration.rules.distinct && configuration.declared.distinct

theorem distinctFallbacks_shape : DistinctFallbacks shape.fields := by
  intro field member held isHeld
  simp only [shape, List.mem_cons, List.not_mem_nil, or_false] at member
  rcases member with rfl | rfl
  · cases isHeld
    rfl
  · cases isHeld
    rfl

theorem distinct_of_parse {text : String} {configuration : Configuration}
    (parsed : saved.parse text = .ok configuration) :
    configuration.distinct = true := by
  have toEndOf : saved.parse text = toEnd
      ((shape.ofText Json.depthLimit text.toList).map
        fun ((rules, declared, ()), rest) => (⟨rules, declared⟩, rest)) := rfl
  rw [toEndOf] at parsed
  cases read : shape.ofText Json.depthLimit text.toList with
  | error fault =>
      rw [read] at parsed
      cases parsed
  | ok result =>
      obtain ⟨⟨rules, declared, ⟨⟩⟩, rest⟩ := result
      have kept : Row.Distinct shape.fields (rules, declared, ()) :=
        shape.gives_ofText distinctFallbacks_shape _ read
      have held : configuration = ⟨rules, declared⟩ := by
        rw [read] at parsed
        simp only [Except.map, toEnd] at parsed
        split at parsed
        · cases parsed
          rfl
        · cases parsed
      rw [held, distinct, Bool.and_eq_true]
      exact ⟨kept.1, kept.2.1⟩

/-- A configuration that is loaded has distinct names, whatever its text says
twice. -/
theorem distinct_of_load {contents : Option ByteArray}
    {configuration : Configuration}
    (loaded : load contents = .ok configuration) :
    configuration.distinct = true := by
  unfold load at loaded
  split at loaded
  · cases loaded
  · split at loaded
    · cases loaded
    · next text isText =>
        cases parsed : saved.parse text with
        | error fault =>
            rw [parsed] at loaded
            cases loaded
        | ok found =>
            rw [parsed] at loaded
            cases loaded
            exact distinct_of_parse parsed

end Configuration

end AggregateRules
