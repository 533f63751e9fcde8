import AggregateRules.Label.ClassName
import AggregateRules.Proofs.Label.Word
import AggregateRules.Proofs.Unicode.Ascii

/-!
# Words of ASCII labels

A word of an ASCII label consists of letters or is a number. A change of case
acts on its first character and on all others, and leaves numbers alone, see
`capitalize_of_plainWord`.
-/

namespace AggregateRules.Label

open Unicode

/-- A word whose letters pass one test at its start and another one behind it,
or a number. -/
inductive WordOf (starts continues : Char → Bool) : List Char → Prop where
  | letters {first : Char} {rest : List Char} :
      starts first = true →
      (∀ letter ∈ rest, continues letter = true) →
      WordOf starts continues (first :: rest)
  | number {first : Char} {rest : List Char} :
      first.isDigit = true →
      (∀ digit ∈ rest, digit.isDigit = true) →
      WordOf starts continues (first :: rest)

/-- Letters in any case, or digits. -/
abbrev PlainWord : List Char → Prop :=
  WordOf Char.isAlpha Char.isAlpha

/-- A capital and small letters behind it, or digits. -/
abbrev ClassWord : List Char → Prop :=
  WordOf Char.isUpper Char.isLower

/-- A letter in any case and small letters behind it, or digits. -/
abbrev NameWord : List Char → Prop :=
  WordOf Char.isAlpha Char.isLower

/-- Small letters, or digits. -/
abbrev SmallWord : List Char → Prop :=
  WordOf Char.isLower Char.isLower

/-- Capitals, or digits. -/
abbrev CapitalWord : List Char → Prop :=
  WordOf Char.isUpper Char.isUpper

def isNumber (word : List Char) : Bool :=
  word.all Char.isDigit

/-- Two neighbours that do not both pass a test. -/
def NotBoth (test : List Char → Bool) (left right : List Char) : Prop :=
  ¬ (test left = true ∧ test right = true)

instance (test : List Char → Bool) : DecidableRel (NotBoth test) :=
  fun left right =>
    inferInstanceAs (Decidable (¬ (test left = true ∧ test right = true)))

/-- What keeps the result of the test keeps neighbours apart. -/
theorem isChain_notBoth_map {test : List Char → Bool}
    {change : List Char → List Char} {words : List (List Char)}
    (same : ∀ word ∈ words, test (change word) = test word) :
    (words.map change).IsChain (NotBoth test) ↔
      words.IsChain (NotBoth test) := by
  rw [List.isChain_map]
  apply List.IsChain.iff_of_mem_imp
  intro left right leftMember rightMember
  rw [NotBoth, NotBoth, same left leftMember, same right rightMember]

theorem isChain_notBoth_cons {test : List Char → Bool} {word : List Char}
    {rest : List (List Char)} :
    (word :: rest).IsChain (NotBoth test) ↔
      (test word = true → ∀ next ∈ rest.head?, test next = false) ∧
        rest.IsChain (NotBoth test) := by
  rw [List.isChain_cons]
  apply and_congr_left
  intro _
  constructor
  · intro apart passes next isNext
    rw [Bool.eq_false_iff]
    intro nextPasses
    exact apart next isNext ⟨passes, nextPasses⟩
  · intro apart next isNext both
    rw [apart both.1 next isNext] at both
    exact Bool.false_ne_true both.2

theorem isNumber_cons_iff {first : Char} {rest : List Char} :
    isNumber (first :: rest) = true ↔
      first.isDigit = true ∧ ∀ digit ∈ rest, digit.isDigit = true := by
  rw [isNumber, List.all_eq_true, List.forall_mem_cons]

theorem WordOf.imp {starts continues starts' continues' : Char → Bool}
    {word : List Char}
    (atStart : ∀ letter, starts letter = true → starts' letter = true)
    (behind : ∀ letter, continues letter = true → continues' letter = true)
    (isWord : WordOf starts continues word) :
    WordOf starts' continues' word := by
  cases isWord with
  | letters first rest =>
      exact .letters (atStart _ first) fun letter member =>
        behind letter (rest letter member)
  | number first rest => exact .number first rest

theorem WordOf.ne_nil {starts continues : Char → Bool} {word : List Char}
    (isWord : WordOf starts continues word) : word ≠ [] := by
  cases isWord with
  | letters first rest => exact List.cons_ne_nil _ _
  | number first rest => exact List.cons_ne_nil _ _

theorem isAlphanum_of_mem_plainWord {word : List Char}
    (plain : PlainWord word) :
    ∀ character ∈ word, character.isAlphanum = true := by
  cases plain with
  | letters first rest =>
      rw [List.forall_mem_cons]
      constructor
      · exact isAlphanum_of_isAlpha first
      · intro letter member
        exact isAlphanum_of_isAlpha (rest letter member)
  | number first rest =>
      rw [List.forall_mem_cons]
      constructor
      · exact isAlphanum_of_isDigit first
      · intro digit member
        exact isAlphanum_of_isDigit (rest digit member)

theorem isAscii_of_mem_plainWord {word : List Char} (plain : PlainWord word) :
    ∀ character ∈ word, isAscii character = true := by
  intro character member
  apply isAscii_of_isAlphanum
  exact isAlphanum_of_mem_plainWord plain character member

theorem isAlpha_of_isUpper {letter : Char} (upper : letter.isUpper = true) :
    letter.isAlpha = true := by
  simp [Char.isAlpha, upper]

theorem isAlpha_of_isLower {letter : Char} (lower : letter.isLower = true) :
    letter.isAlpha = true := by
  simp [Char.isAlpha, lower]

theorem NameWord.plain {word : List Char} (isWord : NameWord word) :
    PlainWord word :=
  isWord.imp (fun _ => id) fun _ => isAlpha_of_isLower

theorem ClassWord.nameWord {word : List Char} (isWord : ClassWord word) :
    NameWord word :=
  isWord.imp (fun _ => isAlpha_of_isUpper) fun _ => id

theorem SmallWord.nameWord {word : List Char} (isWord : SmallWord word) :
    NameWord word :=
  isWord.imp (fun _ => isAlpha_of_isLower) fun _ => id

theorem ClassWord.plain {word : List Char} (isWord : ClassWord word) :
    PlainWord word :=
  isWord.nameWord.plain

theorem SmallWord.plain {word : List Char} (isWord : SmallWord word) :
    PlainWord word :=
  isWord.nameWord.plain

theorem CapitalWord.plain {word : List Char} (isWord : CapitalWord word) :
    PlainWord word :=
  isWord.imp (fun _ => isAlpha_of_isUpper) fun _ => isAlpha_of_isUpper

/-- Digits have no case. -/
theorem uncased_of_asciiDigit {digit : Char}
    (isDigit : digit.isDigit = true) :
    digit.isUpper = false ∧ digit.isLower = false := by
  have ascii := isAscii_of_isAlphanum (isAlphanum_of_isDigit isDigit)
  obtain ⟨notUpper, notLower⟩ := uncased_of_isDigit isDigit
  rw [(agreesWithTables_of_isAscii ascii).upper] at notUpper
  rw [(agreesWithTables_of_isAscii ascii).lower] at notLower
  exact ⟨notUpper, notLower⟩

theorem isDigit_eq_false_of_isAlpha {letter : Char}
    (isAlpha : letter.isAlpha = true) : letter.isDigit = false := by
  rw [Bool.eq_false_iff]
  intro digit
  obtain ⟨notUpper, notLower⟩ := uncased_of_asciiDigit digit
  simp [Char.isAlpha, notUpper, notLower] at isAlpha

theorem characterClass?_of_isUpper {character : Char}
    (upper : character.isUpper = true) :
    characterClass? character = some .upper := by
  have alphanum := isAlphanum_of_isAlpha (isAlpha_of_isUpper upper)
  have ascii := isAscii_of_isAlphanum alphanum
  rw [characterClass?_eq_some_iff]
  exact (agreesWithTables_of_isAscii ascii).upper.trans upper

theorem characterClass?_of_isLower {character : Char}
    (lower : character.isLower = true) :
    characterClass? character = some .lower := by
  have alphanum := isAlphanum_of_isAlpha (isAlpha_of_isLower lower)
  have ascii := isAscii_of_isAlphanum alphanum
  rw [characterClass?_eq_some_iff]
  exact (agreesWithTables_of_isAscii ascii).lower.trans lower

theorem characterClass?_of_isDigit {character : Char}
    (digit : character.isDigit = true) :
    characterClass? character = some .digit := by
  rw [characterClass?_eq_some_iff]
  exact digit

theorem plainWord_of_mem_words {label : String}
    (ascii : label.toList.all isAscii = true) :
    ∀ word ∈ words label, PlainWord word := by
  have uniform : ∀ word ∈ words label,
      word ≠ [] ∧ ∃ numeric, ∀ character ∈ word,
        character.isDigit = numeric := by
    apply forall_mem_splitWords
    intro first rest _
    exact ⟨firstWord_fst_ne_nil first rest, first.isDigit,
      isDigit_of_mem_firstWord first rest⟩
  have alphanum : ∀ word ∈ words label, ∀ character ∈ word,
      character.isAlphanum = true := by
    intro word isWord character member
    have inLabel : character ∈ label.toList.filter isAlphanumeric := by
      rw [← flatten_splitWords]
      exact List.mem_flatten.mpr ⟨word, isWord, member⟩
    obtain ⟨inLabel, alphanumeric⟩ := List.mem_filter.mp inLabel
    have here := List.all_eq_true.mp ascii character inLabel
    rw [← (agreesWithTables_of_isAscii here).alphanumeric]
    exact alphanumeric
  intro word isWord
  obtain ⟨nonempty, numeric, alike⟩ := uniform word isWord
  obtain ⟨first, rest, rfl⟩ := List.exists_cons_of_ne_nil nonempty
  have letterOrDigit := alphanum _ isWord
  rw [List.forall_mem_cons] at alike letterOrDigit
  cases numeric with
  | true => exact .number alike.1 alike.2
  | false =>
      have letter {character : Char} (noDigit : character.isDigit = false)
          (alphanum : character.isAlphanum = true) :
          character.isAlpha = true := by
        rw [Char.isAlphanum, noDigit, Bool.or_false] at alphanum
        exact alphanum
      refine .letters (letter alike.1 letterOrDigit.1) ?_
      intro character member
      exact letter (alike.2 character member)
        (letterOrDigit.2 character member)

/-- A function that takes letters to letters and leaves digits alone. -/
structure ChangesCase (change : Char → Char) : Prop where
  letter : ∀ character, (change character).isAlpha = character.isAlpha
  digit : ∀ character, character.isDigit = true → change character = character

theorem changesCase_toLower : ChangesCase Char.toLower := by
  constructor
  · intro character
    exact Char.isAlpha_toLower_eq_isAlpha character
  · intro character digit
    apply Char.toLower_eq_of_not_isUpper
    exact Bool.eq_false_iff.mp (uncased_of_asciiDigit digit).1

theorem changesCase_toUpper : ChangesCase Char.toUpper := by
  constructor
  · intro character
    exact Char.isAlpha_toUpper_eq_isAlpha character
  · intro character digit
    apply Char.toUpper_eq_of_not_isLower
    exact Bool.eq_false_iff.mp (uncased_of_asciiDigit digit).2

/-- Applies one function to the first character of a word and another one to
all others. -/
def recased (atStart behind : Char → Char) : List Char → List Char
  | [] => []
  | first :: rest => atStart first :: rest.map behind

theorem recased_recased (atStart behind atStart' behind' : Char → Char)
    (word : List Char) :
    recased atStart behind (recased atStart' behind' word) =
      recased (atStart ∘ atStart') (behind ∘ behind') word := by
  cases word with
  | nil => rfl
  | cons first rest => simp [recased]

theorem map_eq_recased (change : Char → Char) (word : List Char) :
    word.map change = recased change change word := by
  cases word with
  | nil => rfl
  | cons first rest => rfl

section Recased

variable {atStart behind : Char → Char} (changesStart : ChangesCase atStart)
  (changesBehind : ChangesCase behind)

include changesStart changesBehind

theorem recased_of_isNumber {word : List Char}
    (number : isNumber word = true) : recased atStart behind word = word := by
  cases word with
  | nil => rfl
  | cons first rest =>
      obtain ⟨firstDigit, digits⟩ := isNumber_cons_iff.mp number
      have kept : rest.map behind = rest := by
        calc rest.map behind
            = rest.map id := List.map_congr_left fun digit member =>
              changesBehind.digit digit (digits digit member)
          _ = rest := List.map_id rest
      rw [recased, changesStart.digit first firstDigit, kept]

theorem WordOf.recased {starts continues : Char → Bool} {word : List Char}
    (plain : PlainWord word)
    (startsCase : ∀ letter, letter.isAlpha = true →
      starts (atStart letter) = true)
    (behindCase : ∀ letter, letter.isAlpha = true →
      continues (behind letter) = true) :
    WordOf starts continues (recased atStart behind word) := by
  cases plain with
  | letters first rest =>
      apply WordOf.letters (startsCase _ first)
      intro character member
      obtain ⟨letter, inRest, rfl⟩ := List.mem_map.mp member
      exact behindCase letter (rest letter inRest)
  | number first rest =>
      rw [recased_of_isNumber changesStart changesBehind
        (isNumber_cons_iff.mpr ⟨first, rest⟩)]
      exact .number first rest

/-- Numbers stay numbers, and letters do not become numbers. -/
theorem isNumber_recased {word : List Char} (plain : PlainWord word) :
    isNumber (Label.recased atStart behind word) = isNumber word := by
  cases plain with
  | @letters first rest firstLetter others =>
      have changed : (atStart first).isAlpha = true :=
        (changesStart.letter first).trans firstLetter
      simp [Label.recased, isNumber, isDigit_eq_false_of_isAlpha changed,
        isDigit_eq_false_of_isAlpha firstLetter]
  | number first rest =>
      rw [recased_of_isNumber changesStart changesBehind
        (isNumber_cons_iff.mpr ⟨first, rest⟩)]

end Recased

section PlainWords

variable {word : List Char} (plain : PlainWord word)

include plain

theorem capitalize_of_plainWord :
    capitalize word = recased Char.toUpper Char.toLower word := by
  have ascii := isAscii_of_mem_plainWord plain
  cases word with
  | nil => rfl
  | cons first rest =>
      obtain ⟨here, others⟩ := List.forall_mem_cons.mp ascii
      rw [capitalize, (agreesWithTables_of_isAscii here).toUpper,
        flatMap_toLowercase_of_isAscii others]
      rfl

theorem lowercaseWord_of_plainWord :
    lowercaseWord word = recased Char.toLower Char.toLower word := by
  rw [lowercaseWord_of_isAscii (isAscii_of_mem_plainWord plain)]
  exact map_eq_recased Char.toLower word

theorem uppercaseWord_of_plainWord :
    uppercaseWord word = recased Char.toUpper Char.toUpper word := by
  rw [uppercaseWord_of_isAscii (isAscii_of_mem_plainWord plain)]
  exact map_eq_recased Char.toUpper word

theorem classWord_capitalize : ClassWord (capitalize word) := by
  rw [capitalize_of_plainWord plain]
  apply WordOf.recased changesCase_toUpper changesCase_toLower plain
  · intro letter isLetter
    rw [Char.isUpper_toUpper_eq_isAlpha, isLetter]
  · intro letter isLetter
    rw [Char.isLower_toLower_eq_isAlpha, isLetter]

theorem smallWord_lowercaseWord : SmallWord (lowercaseWord word) := by
  rw [lowercaseWord_of_plainWord plain]
  apply WordOf.recased changesCase_toLower changesCase_toLower plain
  · intro letter isLetter
    rw [Char.isLower_toLower_eq_isAlpha, isLetter]
  · intro letter isLetter
    rw [Char.isLower_toLower_eq_isAlpha, isLetter]

theorem capitalWord_uppercaseWord : CapitalWord (uppercaseWord word) := by
  rw [uppercaseWord_of_plainWord plain]
  apply WordOf.recased changesCase_toUpper changesCase_toUpper plain
  · intro letter isLetter
    rw [Char.isUpper_toUpper_eq_isAlpha, isLetter]
  · intro letter isLetter
    rw [Char.isUpper_toUpper_eq_isAlpha, isLetter]

theorem capitalize_lowercaseWord :
    capitalize (lowercaseWord word) = capitalize word := by
  rw [capitalize_of_plainWord (smallWord_lowercaseWord plain).plain,
    lowercaseWord_of_plainWord plain, capitalize_of_plainWord plain,
    recased_recased]
  congr 1
  · exact funext Char.toUpper_toLower_eq_toUpper
  · exact funext Char.toLower_toLower_eq_toLower

theorem capitalize_uppercaseWord :
    capitalize (uppercaseWord word) = capitalize word := by
  rw [capitalize_of_plainWord (capitalWord_uppercaseWord plain).plain,
    uppercaseWord_of_plainWord plain, capitalize_of_plainWord plain,
    recased_recased]
  congr 1
  · exact funext Char.toUpper_toUpper_eq_toUpper
  · exact funext Char.toLower_toUpper_eq_toLower

theorem capitalize_capitalize :
    capitalize (capitalize word) = capitalize word := by
  rw [capitalize_of_plainWord (classWord_capitalize plain).plain,
    capitalize_of_plainWord plain, recased_recased]
  congr 1
  · exact funext Char.toUpper_toUpper_eq_toUpper
  · exact funext Char.toLower_toLower_eq_toLower

theorem lowercaseWord_capitalize :
    lowercaseWord (capitalize word) = lowercaseWord word := by
  rw [lowercaseWord_of_plainWord (classWord_capitalize plain).plain,
    capitalize_of_plainWord plain, lowercaseWord_of_plainWord plain,
    recased_recased]
  congr 1
  · exact funext Char.toLower_toUpper_eq_toLower
  · exact funext Char.toLower_toLower_eq_toLower

end PlainWords

end AggregateRules.Label
