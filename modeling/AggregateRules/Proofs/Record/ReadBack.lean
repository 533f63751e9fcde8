import AggregateRules.Configuration.Basic
import AggregateRules.Proofs.Json.ReadBack
import AggregateRules.Proofs.Compilation.Generation

/-!
# Records are read back

A record is saved as an object with all its fields in their order, and read
back from the compact text of this object, see `Saved.parse_record`. What a
field holds has to be read back one level deeper than the record. So the
elements of a model and configurations survive being saved and loaded, see
`saved_values_survive`.
-/

namespace AggregateRules

open Json.Reader

/-- How what a field holds is saved. -/
def FieldShape.toJson : (shape : FieldShape) → shape.Carrier → Json
  | .text, source => .string source
  | .nodeKind, kind => .string kind.name
  | .severity, level => .string level.name
  | .json, value => value

/-- Whether what a field holds can be saved: only a JSON value may be too deep
or hold unfit numbers. -/
def FieldShape.Savable (depth : Nat) :
    (shape : FieldShape) → shape.Carrier → Prop
  | .json, value => value.Savable depth
  | .text, _ | .nodeKind, _ | .severity, _ => True

theorem stringBehindQuote_escaped (text : String) (rest : List Char) :
    stringBehindQuote (text.toList.flatMap Json.escape ++ '"' :: rest) =
      .ok (text, rest) := by
  rw [stringBehindQuote, Json.stringBody_flatMap_escape]
  simp only [textStep, Except.map, String.ofList_toList]

theorem reads_textOfText (text : String) :
    Reads textOfText (Json.string text).compactText text := by
  intro rest ends
  rw [Json.compactText, Json.quote_append, textOfText,
    skipBlank_cons (by decide)]
  exact stringBehindQuote_escaped text rest

theorem Variants.reads_ofText {variants : Variants α} {name : String}
    {value : α} (known : variants.lookup name = some value) (depth : Nat) :
    Reads (variants.ofText depth) (Json.string name).compactText value := by
  intro rest ends
  rw [Json.compactText, Json.quote_append, ofText, skipBlank_cons (by decide)]
  simp only [stringBehindQuote_escaped, named, known, shapeStep, bind,
    Except.bind]

theorem NodeKind.lookup_variants (kind : NodeKind) :
    NodeKind.variants.lookup kind.name = some kind := by
  cases kind <;> decide

theorem Severity.lookup_variants (severity : Severity) :
    Severity.variants.lookup severity.name = some severity := by
  cases severity
  decide

theorem FieldShape.reads_ofText {depth : Nat} (shape : FieldShape)
    {held : shape.Carrier} (savable : shape.Savable depth held) :
    Reads (shape.ofText depth) (shape.toJson held).compactText held := by
  cases shape with
  | text => exact reads_textOfText held
  | nodeKind => exact Variants.reads_ofText held.lookup_variants depth
  | severity => exact Variants.reads_ofText held.lookup_variants depth
  | json => exact reads_value depth savable

/-- The members of the object that a row is saved as. -/
def Row.members : (fields : List Field) → Row fields → List (String × Json)
  | [], () => []
  | field :: rest, (held, more) =>
      (field.name, field.shape.toJson held) :: Row.members rest more

def Row.Savable (depth : Nat) : (fields : List Field) → Row fields → Prop
  | [], () => True
  | field :: rest, (held, more) =>
      field.shape.Savable depth held ∧ Row.Savable depth rest more

/-- What is known once all fields have been read. -/
def PartialRow.ofRow : (fields : List Field) → Row fields → PartialRow fields
  | [], () => ()
  | _ :: rest, (held, more) => (some held, ofRow rest more)

theorem PartialRow.complete_ofRow (fields : List Field) (row : Row fields) :
    complete fields (ofRow fields row) = .ok row := by
  induction fields with
  | nil => rfl
  | cons field rest ih =>
      obtain ⟨held, more⟩ := row
      simp [complete, ofRow, ih more, bind, Except.bind]

theorem Row.map_fst_members (fields : List Field) (row : Row fields) :
    (Row.members fields row).map Prod.fst = fields.map Field.name := by
  induction fields with
  | nil => rfl
  | cons field rest ih =>
      obtain ⟨held, more⟩ := row
      rw [members, List.map_cons, List.map_cons, ih more]

/-- Members of other names pass by a field. -/
theorem PartialRow.readsMembers_cons {depth : Nat} {field : Field}
    {rest : List Field} {known final : PartialRow rest}
    {members : List (String × Json)}
    (reads : ReadsMembers (readMember depth rest) known members final)
    (others : field.name ∉ members.map Prod.fst)
    (held : Option field.shape.Carrier) :
    ReadsMembers (readMember depth (field :: rest)) (held, known) members
      (held, final) := by
  induction reads with
  | nil state => exact .nil _
  | @cons state extended final name value behind readsFirst _ ih =>
      rw [List.map_cons, List.mem_cons, not_or] at others
      refine .cons (fun ends => ?_) (ih others.2)
      rw [readMember, if_neg others.1]
      simp only [readsFirst ends, bind, Except.bind]

/-- The members of a saved row fill in all fields. -/
theorem PartialRow.readsMembers_ofRow {depth : Nat} {fields : List Field}
    (nodup : (fields.map Field.name).Nodup) {row : Row fields}
    (savable : Row.Savable depth fields row) :
    ReadsMembers (readMember depth fields) (empty fields)
      (Row.members fields row) (ofRow fields row) := by
  induction fields with
  | nil => exact .nil ()
  | cons field rest ih =>
      obtain ⟨held, more⟩ := row
      rw [List.map_cons, List.nodup_cons] at nodup
      have absent : field.name ∉ (Row.members rest more).map Prod.fst := by
        rw [Row.map_fst_members]
        exact nodup.1
      refine .cons (fun ends => ?_)
        (readsMembers_cons (ih nodup.2 savable.2) absent (some held))
      have found := field.shape.reads_ofText savable.1 ends
      simp [readMember, empty, textStep_skipColon, found, bind, Except.bind]

/-- A record is read back from the text of its object. -/
theorem RecordShape.reads_ofText (record : RecordShape)
    (nodup : (record.fields.map Field.name).Nodup) {depth : Nat}
    {row : Row record.fields} (savable : Row.Savable depth record.fields row) :
    Reads (record.ofText (depth + 1))
      (Json.object (Row.members record.fields row)).compactText row := by
  intro rest ends
  obtain ⟨text, opened⟩ :=
    Json.compactText_object (Row.members record.fields row)
  have read := members_compactText
    (PartialRow.readsMembers_ofRow nodup savable) opened rest
  rw [opened, List.cons_append, ofText, skipBlank_cons (by decide)]
  simp only [read, PartialRow.complete_ofRow, shapeStep, bind, Except.bind]

namespace Saved

/-- The text that a value is saved as. -/
def text (saved : Saved α) (value : α) : String :=
  (saved.toJson value).compact

theorem parse_text_of_reads {saved : Saved α} {value : α}
    (reads : Reads (saved.ofText Json.depthLimit)
      (saved.toJson value).compactText value) :
    saved.parse (saved.text value) = .ok value := by
  have atEnd : Json.EndsValue [] := by rintro _ ⟨⟩
  have read := reads atEnd
  rw [List.append_nil] at read
  rw [parse, text, Json.compact, String.toList_ofList, read]
  rfl

theorem parse_field {shape : FieldShape} {save : α → Json}
    {build : shape.Carrier → α} {value : α} (held : shape.Carrier)
    (saves : save value = shape.toJson held) (builds : build held = value)
    (savable : shape.Savable Json.depthLimit held) :
    (field shape save build).parse ((field shape save build).text value) =
      .ok value := by
  apply parse_text_of_reads
  intro rest ends
  have read := shape.reads_ofText savable ends
  simp only [field, saves, read, Except.map, builds]

/-- A record is read back if it is saved as the object of its fields. -/
theorem parse_record {shape : RecordShape} {save : α → Json}
    {build : Row shape.fields → α} {value : α} (row : Row shape.fields)
    (nodup : (shape.fields.map Field.name).Nodup)
    (saves : save value = .object (Row.members shape.fields row))
    (builds : build row = value) {inner : Nat}
    (within : Json.depthLimit = inner + 1)
    (savable : Row.Savable inner shape.fields row) :
    (record shape save build).parse ((record shape save build).text value) =
      .ok value := by
  apply parse_text_of_reads
  intro rest ends
  have read := shape.reads_ofText nodup savable ends
  rw [within]
  simp only [record, saves, read, Except.map, builds]

end Saved

theorem Configuration.parse_text {configuration : Configuration}
    (rules : configuration.rules.Savable 126)
    (declared : configuration.declared.Savable 126) :
    saved.parse (saved.text configuration) = .ok configuration :=
  Saved.parse_record (configuration.rules, configuration.declared, ())
    (by decide) rfl rfl rfl ⟨rules, declared, trivial⟩

/-- Configurations and the elements of a model are read back from the texts that
they are saved as. The JSON values in a configuration may be nested one level
less than a whole text. A configuration that is read back is compiled to the
same block or fails with the same error. -/
theorem saved_values_survive {configuration : Configuration}
    (rules : configuration.rules.Savable 126)
    (declared : configuration.declared.Savable 126) (node : Node)
    (model : Model) (entry : Variable) (expression : Expression)
    (diagnostic : Diagnostic) (kind : NodeKind) (severity : Severity) :
    Configuration.saved.parse (Configuration.saved.text configuration) =
        .ok configuration ∧
      (Configuration.saved.parse (Configuration.saved.text configuration)).map
          (Configuration.compile node model) =
        .ok (configuration.compile node model) ∧
      Node.saved.parse (Node.saved.text node) = .ok node ∧
      Variable.saved.parse (Variable.saved.text entry) = .ok entry ∧
      Expression.saved.parse (Expression.saved.text expression) =
        .ok expression ∧
      Diagnostic.saved.parse (Diagnostic.saved.text diagnostic) =
        .ok diagnostic ∧
      NodeKind.saved.parse (NodeKind.saved.text kind) = .ok kind ∧
      Severity.saved.parse (Severity.saved.text severity) = .ok severity := by
  have parsed := Configuration.parse_text rules declared
  refine ⟨parsed, ?_, ?_, ?_, ?_, ?_, ?_, ?_⟩
  · rw [parsed]
    rfl
  · exact Saved.parse_record (node.id, node.name, node.kind, ()) (by decide)
      rfl rfl rfl ⟨trivial, trivial, trivial, trivial⟩
  · exact Saved.parse_record (entry.name, entry.initializer.source, ())
      (by decide) rfl rfl rfl ⟨trivial, trivial, trivial⟩
  · exact Saved.parse_field expression.source rfl rfl trivial
  · exact Saved.parse_record
      (diagnostic.message, diagnostic.severity, diagnostic.details, ())
      (by decide) rfl rfl rfl ⟨trivial, trivial, trivial, trivial⟩
  · exact Saved.parse_field kind rfl rfl trivial
  · exact Saved.parse_field severity rfl rfl trivial

namespace Sample

/-- Rules of an unknown kind with a name that has to be escaped, with the
smallest and the largest integer, and without any variables. -/
def unusual : Configuration where
  rules :=
    .array
      [.object
        [("type", .string "\"some\\times\"\n\x01"), ("then", .null),
          ("", .array
            [.number (.integer (-9223372036854775808)),
              .number (.integer 18446744073709551615), .object []])]]
  declared := .null

theorem unusual_values_survive :
    unusual.rules.Savable 126 ∧ unusual.declared.Savable 126 ∧
      Configuration.saved.parse (Configuration.saved.text unusual) =
        .ok unusual ∧
      (Configuration.saved.parse (Configuration.saved.text unusual)).map
          (Configuration.compile order orders) =
        .ok (.error
          (.unknownRuleKind "aggregate 'Order'" "\"some\\times\"\n\x01")) ∧
      Diagnostic.saved.parse
          (Diagnostic.saved.text (.error "no \"service\"" "\\")) =
        .ok (.error "no \"service\"" "\\") := by
  have rules : unusual.rules.Savable 126 := by decide +kernel
  have declared : unusual.declared.Savable 126 := by decide +kernel
  obtain ⟨parsed, compiled, -, -, -, diagnostic, -, -⟩ :=
    saved_values_survive rules declared order orders ⟨"sum", ⟨"1 + 1"⟩⟩ ⟨""⟩
      (.error "no \"service\"" "\\") .event .error
  have failed : Configuration.readRules order unusual.rules =
      .error (.unknownRuleKind "aggregate 'Order'"
        "\"some\\times\"\n\x01") := by
    rw [unusual, Configuration.readRules, Configuration.readRuleItems,
      Configuration.readRule]
    rfl
  refine ⟨rules, declared, parsed, ?_, diagnostic⟩
  rw [compiled, Configuration.compile, Configuration.run, failed]
  rfl

end Sample

end AggregateRules
