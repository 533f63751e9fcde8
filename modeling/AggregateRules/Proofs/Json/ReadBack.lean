import AggregateRules.Json.Compact
import AggregateRules.Proofs.Json.Numeral
import AggregateRules.Proofs.Json.Quoted
import AggregateRules.Proofs.Json.Reader

/-!
# Values are read back

A value is found again in its compact text, and the reader goes on behind it,
see `reads_value`. For this the value must not be nested deeper than the reader
allows, its numbers must be integers of 64 bits, and the names in each object
must be distinct. The loops over items and members are settled first, for
whatever reads an item or a member, as a record is read by the same loops.
-/

namespace AggregateRules

/-- Whether a number is an integer of 64 bits. -/
def Number.isWord : Number → Bool
  | .integer value => Json.Reader.isWord value
  | .real _ => false

namespace Json

mutual

/-- How many arrays and objects stand around each other in a value. -/
def nesting : Json → Nat
  | .array items => nestingItems items + 1
  | .object members => nestingMembers members + 1
  | .null | .bool _ | .number _ | .string _ => 0

def nestingItems : List Json → Nat
  | [] => 0
  | item :: rest => max item.nesting (nestingItems rest)

def nestingMembers : List (String × Json) → Nat
  | [] => 0
  | (_, value) :: rest => max value.nesting (nestingMembers rest)

end

mutual

/-- Whether all numbers in a value are integers of 64 bits. -/
def wordsOnly : Json → Bool
  | .number value => value.isWord
  | .array items => wordsOnlyItems items
  | .object members => wordsOnlyMembers members
  | .null | .bool _ | .string _ => true

def wordsOnlyItems : List Json → Bool
  | [] => true
  | item :: rest => item.wordsOnly && wordsOnlyItems rest

def wordsOnlyMembers : List (String × Json) → Bool
  | [] => true
  | (_, value) :: rest => value.wordsOnly && wordsOnlyMembers rest

end

/-- Values that survive being written and read: they are nested at most as deep
as is said, their numbers are integers of 64 bits, and the names in each object
are distinct, as in every value that was read from a text. -/
structure Savable (depth : Nat) (value : Json) : Prop where
  nested : value.nesting ≤ depth
  words : value.wordsOnly = true
  distinct : value.distinct = true

namespace Savable

variable {depth : Nat}

instance (value : Json) : Decidable (value.Savable depth) :=
  decidable_of_iff
    (value.nesting ≤ depth ∧ value.wordsOnly = true ∧ value.distinct = true)
    ⟨fun ⟨nested, words, distinct⟩ => ⟨nested, words, distinct⟩,
      fun savable => ⟨savable.nested, savable.words, savable.distinct⟩⟩

theorem item {items : List Json} (savable : (array items).Savable (depth + 1)) :
    ∀ item ∈ items, item.Savable depth := by
  obtain ⟨nested, words, distinct⟩ := savable
  rw [nesting, Nat.add_le_add_iff_right] at nested
  rw [wordsOnly] at words
  rw [Json.distinct] at distinct
  induction items with
  | nil => simp
  | cons first rest ih =>
      rw [nestingItems, Nat.max_le] at nested
      rw [wordsOnlyItems, Bool.and_eq_true] at words
      rw [distinctItems, Bool.and_eq_true] at distinct
      exact List.forall_mem_cons.mpr
        ⟨⟨nested.1, words.1, distinct.1⟩, ih nested.2 words.2 distinct.2⟩

theorem member {members : List (String × Json)}
    (savable : (object members).Savable (depth + 1)) :
    (members.map Prod.fst).Nodup ∧
      ∀ member ∈ members, member.2.Savable depth := by
  obtain ⟨nested, words, distinct⟩ := savable
  rw [nesting, Nat.add_le_add_iff_right] at nested
  rw [wordsOnly] at words
  rw [Json.distinct, Bool.and_eq_true, decide_eq_true_eq] at distinct
  obtain ⟨nodup, distinct⟩ := distinct
  refine ⟨nodup, ?_⟩
  clear nodup
  induction members with
  | nil => simp
  | cons first rest ih =>
      obtain ⟨name, value⟩ := first
      rw [nestingMembers, Nat.max_le] at nested
      rw [wordsOnlyMembers, Bool.and_eq_true] at words
      rw [distinctMembers, Bool.and_eq_true] at distinct
      exact List.forall_mem_cons.mpr
        ⟨⟨nested.1, words.1, distinct.1⟩, ih nested.2 words.2 distinct.2⟩

end Savable

/-- Whether the first character of a text can be the first one of a value. -/
def StartsValue (text : List Char) : Prop :=
  ∃ first rest, text = first :: rest ∧
    Reader.isBlank first = false ∧ first ≠ ']'

/-- Whether nothing in a text continues the value in front of it. -/
def EndsValue (text : List Char) : Prop :=
  ∀ character ∈ text.head?,
    character = ',' ∨ character = ']' ∨ character = '}'

theorem StartsValue.append {text : List Char} (starts : StartsValue text)
    (rest : List Char) : StartsValue (text ++ rest) := by
  obtain ⟨first, more, rfl, printed, noBracket⟩ := starts
  exact ⟨first, more ++ rest, rfl, printed, noBracket⟩

theorem EndsValue.endsNumber {text : List Char} (ends : EndsValue text) :
    Reader.EndsNumber text := by
  intro character isHead
  obtain rfl | rfl | rfl := ends character isHead <;> decide

theorem endsValue_compactItems (items : List Json) (rest : List Char) :
    EndsValue (compactItems items ++ rest) := by
  cases items with
  | nil =>
      rintro _ ⟨⟩
      exact .inr (.inl rfl)
  | cons item others =>
      rintro _ ⟨⟩
      exact .inl rfl

theorem endsValue_compactMembers (members : List (String × Json))
    (rest : List Char) : EndsValue (compactMembers members ++ rest) := by
  cases members with
  | nil =>
      rintro _ ⟨⟩
      exact .inr (.inr rfl)
  | cons member others =>
      rintro _ ⟨⟩
      exact .inl rfl

theorem compactText_array (items : List Json) :
    ∃ text, (array items).compactText = '[' :: text := by
  cases items <;> exact ⟨_, rfl⟩

theorem compactText_object (members : List (String × Json)) :
    ∃ text, (object members).compactText = '\x7b' :: text := by
  cases members <;> exact ⟨_, rfl⟩

theorem length_lt_length_compactItems (items : List Json) :
    items.length < (compactItems items).length := by
  induction items with
  | nil => simp [compactItems]
  | cons item rest ih =>
      simp only [compactItems, List.length_cons, List.length_append]
      omega

theorem length_lt_length_compactMembers (members : List (String × Json)) :
    members.length < (compactMembers members).length := by
  induction members with
  | nil => simp [compactMembers]
  | cons member rest ih =>
      simp only [compactMembers, List.length_cons, List.length_append]
      omega

namespace Reader

/-- Whether a character can be the first one of a number. -/
def StartsNumber (first : Char) : Prop :=
  first = '-' ∨ first.isDigit = true

theorem StartsNumber.ne {first other : Char} (starts : StartsNumber first)
    (apart : other ≠ '-' ∧ other.isDigit = false) : first ≠ other := by
  rintro rfl
  rcases starts with minus | digit
  · exact apart.1 minus
  · exact absurd digit (by simp [apart.2])

theorem StartsNumber.isBlank {first : Char} (starts : StartsNumber first) :
    isBlank first = false := by
  simp only [Reader.isBlank, starts.ne (by decide : ' ' ≠ '-' ∧ _),
    starts.ne (by decide : '\t' ≠ '-' ∧ _),
    starts.ne (by decide : '\n' ≠ '-' ∧ _),
    starts.ne (by decide : '\r' ≠ '-' ∧ _), decide_false, Bool.or_false]

/-- An integer starts with its sign or with a digit. -/
theorem written_eq_cons (value : Int) :
    ∃ first rest, (Number.integer value).written = first :: rest ∧
      StartsNumber first := by
  cases value with
  | ofNat magnitude =>
      cases shape : Nat.toDigits 10 magnitude with
      | nil => exact absurd shape Nat.toDigits_ne_nil
      | cons first rest =>
          exact ⟨first, rest, shape, .inr (isDigit_of_toDigits_eq shape)⟩
  | negSucc magnitude => exact ⟨'-', _, rfl, .inl rfl⟩

end Reader

theorem startsValue_compactText {depth : Nat} {value : Json}
    (savable : value.Savable depth) : StartsValue value.compactText := by
  cases value with
  | null => exact ⟨'n', _, rfl, rfl, by decide⟩
  | bool truth =>
      cases truth with
      | false => exact ⟨'f', _, rfl, rfl, by decide⟩
      | true => exact ⟨'t', _, rfl, rfl, by decide⟩
  | number number =>
      cases number with
      | real value => cases savable.words
      | integer value =>
          obtain ⟨first, more, shape, starts⟩ := Reader.written_eq_cons value
          exact ⟨first, more, shape, starts.isBlank, starts.ne (by decide)⟩
  | string text => exact ⟨'"', _, rfl, rfl, by decide⟩
  | array items =>
      obtain ⟨text, opened⟩ := compactText_array items
      exact ⟨'[', text, opened, rfl, by decide⟩
  | object members =>
      obtain ⟨text, opened⟩ := compactText_object members
      exact ⟨'\x7b', text, opened, rfl, by decide⟩

namespace Reader

/-- Whether a step finds a result in a text, whatever stands behind the text
and does not continue it. -/
def Reads (step : Step α) (text : List Char) (result : α) : Prop :=
  ∀ {rest : List Char}, EndsValue rest →
    step (text ++ rest) = .ok (result, rest)

theorem skipBlank_cons {first : Char} (printed : isBlank first = false)
    (rest : List Char) : skipBlank (first :: rest) = first :: rest := by
  rw [skipBlank, List.dropWhile_cons_of_neg (by simp [printed])]

theorem textStep_skipColon (text : List Char) :
    textStep (skipColon (':' :: text)) = .ok text :=
  rfl

section Items

variable {item : Step Json} {text : List Char}

theorem furtherItems_comma (starts : StartsValue text) (turns : Nat) :
    furtherItems item (turns + 1) (',' :: text) = (do
      let (value, behind) ← item text
      let (values, after) ← furtherItems item turns behind
      .ok (value :: values, after)) := by
  obtain ⟨first, more, rfl, printed, noBracket⟩ := starts
  rw [furtherItems, skipBlank_cons (by decide)]
  simp only [skipBlank_cons printed]
  split
  · next shape => cases shape
  · next shape =>
      cases shape
      exact absurd rfl noBracket
  · rfl

theorem items_eq (starts : StartsValue text) :
    items item text = (do
      let (value, behind) ← item text
      let (values, after) ← furtherItems item text.length behind
      .ok (value :: values, after)) := by
  obtain ⟨first, more, rfl, printed, noBracket⟩ := starts
  rw [items]
  simp only [skipBlank_cons printed]
  split
  · next shape => cases shape
  · next shape =>
      cases shape
      exact absurd rfl noBracket
  · rfl

variable {held : List Json}

theorem furtherItems_compactItems
    (starts : ∀ value ∈ held, StartsValue value.compactText)
    (reads : ∀ value ∈ held, Reads item value.compactText value)
    {turns : Nat} (enough : held.length < turns) (rest : List Char) :
    furtherItems item turns (compactItems held ++ rest) =
      .ok (held, rest) := by
  induction held generalizing turns with
  | nil =>
      cases turns with
      | zero => cases enough
      | succ turns => rfl
  | cons value others ih =>
      cases turns with
      | zero => cases enough
      | succ turns =>
          obtain ⟨readsFirst, readsOthers⟩ := List.forall_mem_cons.mp reads
          obtain ⟨startsFirst, startsOthers⟩ := List.forall_mem_cons.mp starts
          have first := readsFirst (endsValue_compactItems others rest)
          have further :=
            ih startsOthers readsOthers (Nat.lt_of_succ_lt_succ enough)
          rw [compactItems, List.append_assoc, List.cons_append,
            furtherItems_comma (startsFirst.append _)]
          simp only [first, further, bind, Except.bind]

/-- The items of a list are read behind its opening bracket. -/
theorem items_compactText
    (starts : ∀ value ∈ held, StartsValue value.compactText)
    (reads : ∀ value ∈ held, Reads item value.compactText value)
    (opened : (array held).compactText = '[' :: text) (rest : List Char) :
    items item (text ++ rest) = .ok (held, rest) := by
  cases held with
  | nil =>
      cases opened
      rfl
  | cons value others =>
      obtain ⟨readsFirst, readsOthers⟩ := List.forall_mem_cons.mp reads
      obtain ⟨startsFirst, startsOthers⟩ := List.forall_mem_cons.mp starts
      obtain rfl : value.compactText ++ compactItems others = text :=
        (List.cons.inj opened).2
      have first := readsFirst (endsValue_compactItems others rest)
      have enough : others.length <
          (value.compactText ++ (compactItems others ++ rest)).length := by
        have items := length_lt_length_compactItems others
        rw [List.length_append, List.length_append]
        omega
      have further :=
        furtherItems_compactItems startsOthers readsOthers enough rest
      rw [List.append_assoc, items_eq (startsFirst.append _)]
      simp only [first, further, bind, Except.bind]

end Items

section Members

variable {σ : Type} {member : MemberReader σ}

/-- Reading members one after the other, each behind its name, takes a reader
from one state to another. -/
inductive ReadsMembers (member : MemberReader σ) :
    σ → List (String × Json) → σ → Prop where
  | nil (state : σ) : ReadsMembers member state [] state
  | cons {state extended final : σ} {name : String} {value : Json}
      {rest : List (String × Json)} :
      Reads (member state name) (':' :: value.compactText) extended →
      ReadsMembers member extended rest final →
      ReadsMembers member state ((name, value) :: rest) final

/-- The text of a member behind the quote that opens its name. -/
def memberBody (name : String) (value : Json) (behind : List Char) :
    List Char :=
  name.toList.flatMap escape ++ '"' :: ':' :: (value.compactText ++ behind)

theorem namedMember_memberBody {name : String} {value : Json}
    {state extended : σ}
    (reads : Reads (member state name) (':' :: value.compactText) extended)
    {behind : List Char} (ends : EndsValue behind) :
    namedMember member state (memberBody name value behind) =
      .ok (extended, behind) := by
  have read := reads ends
  rw [List.cons_append] at read
  simp only [namedMember, memberBody, stringBody_flatMap_escape, textStep, bind,
    Except.bind, String.ofList_toList, read]

theorem compactMembers_cons_append (name : String) (value : Json)
    (others : List (String × Json)) (rest : List Char) :
    compactMembers ((name, value) :: others) ++ rest =
      ',' :: '"' :: memberBody name value (compactMembers others ++ rest) := by
  simp [compactMembers, quote, memberBody]

theorem compactText_object_cons_append (name : String) (value : Json)
    (others : List (String × Json)) (rest : List Char) :
    (object ((name, value) :: others)).compactText ++ rest =
      '\x7b' :: '"' ::
        memberBody name value (compactMembers others ++ rest) := by
  simp [compactText, quote, memberBody]

theorem length_le_length_memberBody (name : String) (value : Json)
    (behind : List Char) :
    behind.length ≤ (memberBody name value behind).length := by
  simp only [memberBody, List.length_append, List.length_cons]
  omega

theorem furtherMembers_compactMembers {held : List (String × Json)}
    {state final : σ} (reads : ReadsMembers member state held final)
    {turns : Nat} (enough : held.length < turns) (rest : List Char) :
    furtherMembers member turns state (compactMembers held ++ rest) =
      .ok (final, rest) := by
  induction reads generalizing turns with
  | nil state =>
      cases turns with
      | zero => cases enough
      | succ turns => rfl
  | @cons state extended final name value others readsFirst _ ih =>
      cases turns with
      | zero => cases enough
      | succ turns =>
          have first := namedMember_memberBody readsFirst
            (endsValue_compactMembers others rest)
          have further := ih (Nat.lt_of_succ_lt_succ enough)
          rw [compactMembers_cons_append, furtherMembers,
            skipBlank_cons (by decide)]
          simp only [skipBlank_cons (by decide : isBlank '"' = false), first,
            further, bind, Except.bind]

/-- The members of an object are read behind its opening brace. -/
theorem members_compactText {held : List (String × Json)}
    {state final : σ} (reads : ReadsMembers member state held final)
    {text : List Char} (opened : (object held).compactText = '\x7b' :: text)
    (rest : List Char) :
    members member state (text ++ rest) = .ok (final, rest) := by
  cases reads with
  | nil =>
      cases opened
      rfl
  | @cons _ extended _ name value others readsFirst readsOthers =>
      have first := namedMember_memberBody readsFirst
        (endsValue_compactMembers others rest)
      have isText : text ++ rest =
          '"' :: memberBody name value (compactMembers others ++ rest) := by
        have shape := compactText_object_cons_append name value others rest
        rw [opened] at shape
        exact (List.cons.inj shape).2
      have enough : others.length < (text ++ rest).length := by
        have members := length_lt_length_compactMembers others
        have body := length_le_length_memberBody name value
          (compactMembers others ++ rest)
        rw [List.length_append] at body
        rw [isText, List.length_cons]
        omega
      have further := furtherMembers_compactMembers readsOthers enough rest
      rw [isText] at further ⊢
      rw [members, skipBlank_cons (by decide)]
      simp only [first, further, bind, Except.bind]

theorem readsMembers_plainMember {value : Step Json}
    {held others : List (String × Json)}
    (reads : ∀ member ∈ others, Reads value member.2.compactText member.2)
    (nodup : ((held ++ others).map Prod.fst).Nodup) :
    ReadsMembers (plainMember value) held others (held ++ others) := by
  induction others generalizing held with
  | nil =>
      rw [List.append_nil]
      exact .nil held
  | cons member rest ih =>
      obtain ⟨name, part⟩ := member
      obtain ⟨readsFirst, readsRest⟩ := List.forall_mem_cons.mp reads
      have absent : name ∉ held.map Prod.fst := by
        intro named
        rw [List.map_append, List.map_cons] at nodup
        exact (List.nodup_append.mp nodup).2.2 _ named _ List.mem_cons_self rfl
      have behind : held ++ (name, part) :: rest =
          (held ++ [(name, part)]) ++ rest := by simp
      rw [behind] at nodup ⊢
      refine .cons (fun ends => ?_) (ih readsRest nodup)
      have found := readsFirst ends
      simp only [plainMember, List.cons_append, textStep_skipColon, found,
        putEntry_of_notMem absent, bind, Except.bind]

end Members

theorem value_of_scalar {first : Char} (printed : isBlank first = false)
    (noList : first ≠ '[') (noObject : first ≠ '\x7b') (depth : Nat)
    (rest : List Char) :
    value depth (first :: rest) = textStep (scalar first rest) := by
  unfold value
  rw [skipBlank_cons printed]
  split
  · next shape => cases shape
  · next shape =>
      cases shape
      exact absurd rfl noList
  · next shape =>
      cases shape
      exact absurd rfl noObject
  · next shape =>
      cases shape
      rfl

theorem scalar_quote (text : String) (rest : List Char) :
    scalar '"' (text.toList.flatMap escape ++ '"' :: rest) =
      .ok (.string text, rest) := by
  rw [scalar, if_neg (by decide), if_neg (by decide), if_neg (by decide),
    if_pos rfl, stringBody_flatMap_escape]
  simp only [Except.map, String.ofList_toList]

theorem scalar_of_startsNumber {first : Char} (starts : StartsNumber first)
    (rest : List Char) :
    scalar first rest =
      (number (first :: rest)).map fun (value, behind) =>
        (.number value, behind) := by
  rw [scalar, if_neg (starts.ne (by decide)), if_neg (starts.ne (by decide)),
    if_neg (starts.ne (by decide)), if_neg (starts.ne (by decide))]
  exact if_pos starts

/-- A value without parts is read back at any depth. -/
theorem reads_value_of_scalar {held : Json} (plain : held.nesting = 0)
    (words : held.wordsOnly = true) (depth : Nat) :
    Reads (value depth) held.compactText held := by
  intro rest ends
  cases held with
  | null => exact value_of_scalar rfl (by decide) (by decide) depth _
  | bool truth =>
      cases truth with
      | false => exact value_of_scalar rfl (by decide) (by decide) depth _
      | true => exact value_of_scalar rfl (by decide) (by decide) depth _
  | number number =>
      cases number with
      | real value => cases words
      | integer value =>
          obtain ⟨first, more, shape, starts⟩ := written_eq_cons value
          have read := number_written words ends.endsNumber
          rw [shape, List.cons_append] at read
          rw [compactText, shape, List.cons_append,
            value_of_scalar starts.isBlank (starts.ne (by decide))
              (starts.ne (by decide)),
            scalar_of_startsNumber starts, read]
          rfl
  | string text =>
      rw [compactText, quote_append,
        value_of_scalar rfl (by decide) (by decide), scalar_quote]
      rfl
  | array items => cases plain
  | object members => cases plain

/-- A value that can be saved is read back from its compact text. -/
theorem reads_value (depth : Nat) {held : Json} (savable : held.Savable depth) :
    Reads (value depth) held.compactText held := by
  -- The parts of a value are read with the depth that is left.
  induction depth generalizing held with
  | zero =>
      exact reads_value_of_scalar (Nat.le_zero.mp savable.nested)
        savable.words 0
  | succ depth ih =>
      cases held with
      | null | bool | number | string =>
          exact reads_value_of_scalar rfl savable.words _
      | array items =>
          intro rest ends
          obtain ⟨text, opened⟩ := compactText_array items
          have read := items_compactText
            (fun item member => startsValue_compactText
              (savable.item item member))
            (fun item member => ih (savable.item item member)) opened rest
          rw [opened, List.cons_append, value, skipBlank_cons (by decide)]
          simp only [read, bind, Except.bind]
      | object members =>
          intro rest ends
          obtain ⟨nodup, savable⟩ := savable.member
          obtain ⟨text, opened⟩ := compactText_object members
          have reads :
              ReadsMembers (plainMember (value depth)) [] members members :=
            readsMembers_plainMember
              (fun member isMember => ih (savable member isMember)) nodup
          have read := members_compactText reads opened rest
          rw [opened, List.cons_append, value, skipBlank_cons (by decide)]
          simp only [read, bind, Except.bind]

end Reader

end Json

end AggregateRules
