import AggregateRules.Proofs.Label.AsciiWord

/-!
# When two labels refer to one class

A class name shows where its words start: at each capital, and where digits
start or end. So it determines the words of its label up to case, and up to the
breaks within a row of digits. For labels in ASCII this is all that a class name
leaves open, see `sameClass_iff_joinedWords`.
-/

namespace AggregateRules.Label

open Unicode

/-- Puts a word in front of others; of two numbers in a row it makes one. -/
def attachWord (word : List Char) : List (List Char) → List (List Char)
  | [] => [word]
  | next :: others =>
      if isNumber word ∧ isNumber next then (word ++ next) :: others
      else word :: next :: others

/-- The words with all neighbouring numbers joined into one. -/
def joinNumbers (words : List (List Char)) : List (List Char) :=
  words.foldr attachWord []

theorem joinNumbers_cons (word : List Char) (rest : List (List Char)) :
    joinNumbers (word :: rest) = attachWord word (joinNumbers rest) :=
  rfl

theorem flatten_attachWord (word : List Char) (others : List (List Char)) :
    (attachWord word others).flatten = word ++ others.flatten := by
  cases others with
  | nil => rfl
  | cons next rest =>
      rw [attachWord]
      split
      · rw [List.flatten_cons, List.flatten_cons, List.append_assoc]
      · rw [List.flatten_cons]

/-- Joining numbers loses nothing. -/
theorem flatten_joinNumbers (words : List (List Char)) :
    (joinNumbers words).flatten = words.flatten := by
  induction words with
  | nil => rfl
  | cons word rest ih =>
      rw [joinNumbers_cons, flatten_attachWord, ih, List.flatten_cons]

theorem isNumber_append (left right : List Char) :
    isNumber (left ++ right) = (isNumber left && isNumber right) :=
  List.all_append

theorem WordOf.number_of_isNumber {starts continues : Char → Bool}
    {word : List Char} (nonempty : word ≠ []) (number : isNumber word = true) :
    WordOf starts continues word := by
  obtain ⟨first, rest, rfl⟩ := List.exists_cons_of_ne_nil nonempty
  obtain ⟨firstDigit, digits⟩ := isNumber_cons_iff.mp number
  exact .number firstDigit digits

section Joining

variable {starts continues : Char → Bool}

theorem wordOf_of_mem_attachWord {word : List Char} {others : List (List Char)}
    (isWord : WordOf starts continues word)
    (areWords : ∀ other ∈ others, WordOf starts continues other) :
    ∀ joined ∈ attachWord word others, WordOf starts continues joined := by
  cases others with
  | nil =>
      rw [attachWord, List.forall_mem_singleton]
      exact isWord
  | cons next rest =>
      rw [List.forall_mem_cons] at areWords
      rw [attachWord]
      split
      · next both =>
          rw [List.forall_mem_cons]
          constructor
          · apply WordOf.number_of_isNumber
            · exact List.append_ne_nil_of_left_ne_nil isWord.ne_nil next
            · rw [isNumber_append, both.1, both.2]
              rfl
          · exact areWords.2
      · rw [List.forall_mem_cons, List.forall_mem_cons]
        exact ⟨isWord, areWords⟩

theorem wordOf_of_mem_joinNumbers {words : List (List Char)}
    (areWords : ∀ word ∈ words, WordOf starts continues word) :
    ∀ joined ∈ joinNumbers words, WordOf starts continues joined := by
  induction words with
  | nil => simp [joinNumbers]
  | cons word rest ih =>
      rw [List.forall_mem_cons] at areWords
      exact wordOf_of_mem_attachWord areWords.1 (ih areWords.2)

end Joining

/-- No two numbers are left side by side. -/
theorem isChain_joinNumbers (words : List (List Char)) :
    (joinNumbers words).IsChain (NotBoth isNumber) := by
  induction words with
  | nil => exact List.isChain_nil
  | cons word rest ih =>
      rw [joinNumbers_cons]
      cases joined : joinNumbers rest with
      | nil => exact List.isChain_singleton word
      | cons next others =>
          rw [joined] at ih
          rw [attachWord]
          split
          · next both =>
              rw [List.isChain_cons] at ih ⊢
              refine ⟨fun other isNext bothNumbers => ?_, ih.2⟩
              exact ih.1 other isNext ⟨both.2, bothNumbers.2⟩
          · next notBoth =>
              exact List.isChain_cons_cons.mpr ⟨notBoth, ih⟩

theorem joinNumbers_of_isChain {words : List (List Char)}
    (apart : words.IsChain (NotBoth isNumber)) : joinNumbers words = words := by
  induction words with
  | nil => rfl
  | cons word rest ih =>
      rw [List.isChain_cons] at apart
      rw [joinNumbers_cons, ih apart.2]
      cases rest with
      | nil => rfl
      | cons next others =>
          exact if_neg (apart.1 next rfl)

/-- A change of case keeps the neighbours of a word apart as they were. -/
structure ChangesLetters (change : List Char → List Char) : Prop where
  isNumber_eq : ∀ word, PlainWord word → isNumber (change word) = isNumber word
  number : ∀ word, PlainWord word → isNumber word = true → change word = word

theorem changesLetters_of_recased {change : List Char → List Char}
    {atStart behind : Char → Char} (changesStart : ChangesCase atStart)
    (changesBehind : ChangesCase behind)
    (recases : ∀ word, PlainWord word → change word =
      recased atStart behind word) : ChangesLetters change := by
  constructor
  · intro word plain
    rw [recases word plain]
    exact isNumber_recased changesStart changesBehind plain
  · intro word plain number
    rw [recases word plain]
    exact recased_of_isNumber changesStart changesBehind number

theorem changesLetters_capitalize : ChangesLetters capitalize :=
  changesLetters_of_recased changesCase_toUpper changesCase_toLower
    fun _ plain => capitalize_of_plainWord plain

theorem changesLetters_lowercaseWord : ChangesLetters lowercaseWord :=
  changesLetters_of_recased changesCase_toLower changesCase_toLower
    fun _ plain => lowercaseWord_of_plainWord plain

section Changing

variable {change : List Char → List Char} (changes : ChangesLetters change)

include changes

theorem attachWord_map {word : List Char} {others : List (List Char)}
    (plain : PlainWord word) (plainOthers : ∀ other ∈ others, PlainWord other) :
    attachWord (change word) (others.map change) =
      (attachWord word others).map change := by
  cases others with
  | nil => rfl
  | cons next rest =>
      rw [List.forall_mem_cons] at plainOthers
      rw [List.map_cons, attachWord, attachWord,
        changes.isNumber_eq word plain,
        changes.isNumber_eq next plainOthers.1]
      split
      · next both =>
          have number : isNumber (word ++ next) = true := by
            rw [isNumber_append, both.1, both.2]
            rfl
          have joined : PlainWord (word ++ next) := by
            apply WordOf.number_of_isNumber _ number
            exact List.append_ne_nil_of_left_ne_nil plain.ne_nil next
          rw [List.map_cons, changes.number word plain both.1,
            changes.number next plainOthers.1 both.2,
            changes.number _ joined number]
      · rfl

theorem joinNumbers_map {words : List (List Char)}
    (plain : ∀ word ∈ words, PlainWord word) :
    joinNumbers (words.map change) = (joinNumbers words).map change := by
  induction words with
  | nil => rfl
  | cons word rest ih =>
      rw [List.forall_mem_cons] at plain
      rw [List.map_cons, joinNumbers_cons, ih plain.2]
      exact attachWord_map changes plain.1 (wordOf_of_mem_joinNumbers plain.2)

end Changing

/-- Whether a character of a class name goes on with the word of the one before
it. -/
def continuesWord (left right : Char) : Bool :=
  right.isLower || left.isDigit && right.isDigit

theorem isChain_of_classWord {word : List Char} (isWord : ClassWord word) :
    word.IsChain fun left right => continuesWord left right = true := by
  apply List.Pairwise.isChain
  cases isWord with
  | letters first rest =>
      rw [List.pairwise_cons]
      constructor
      · intro letter member
        simp [continuesWord, rest letter member]
      · apply List.pairwise_of_forall_mem_list
        intro left _ right member
        simp [continuesWord, rest right member]
  | @number first rest firstDigit digits =>
      have allDigits : ∀ digit ∈ first :: rest, digit.isDigit = true :=
        List.forall_mem_cons.mpr ⟨firstDigit, digits⟩
      apply List.pairwise_of_forall_mem_list
      intro left leftMember right rightMember
      simp [continuesWord, allDigits left leftMember,
        allDigits right rightMember]

/-- A word does not go on with the next one: a capital starts a word, and only
another number could go on with a number. -/
theorem continuesWord_getLast_head {left right : List Char}
    (leftWord : ClassWord left) (rightWord : ClassWord right)
    (apart : NotBoth isNumber left right) :
    continuesWord (left.getLast leftWord.ne_nil)
      (right.head rightWord.ne_nil) = false := by
  cases rightWord with
  | @letters first rest firstUpper others =>
      have notLower : first.isLower = false :=
        Bool.eq_false_iff.mpr (Char.not_isLower_of_isUpper firstUpper)
      have noDigit : first.isDigit = false :=
        isDigit_eq_false_of_isAlpha (isAlpha_of_isUpper firstUpper)
      simp [continuesWord, notLower, noDigit]
  | @number first rest firstDigit digits =>
      have notLower := (uncased_of_asciiDigit firstDigit).2
      have lettersBefore : (left.getLast leftWord.ne_nil).isDigit = false := by
        cases leftWord.plain with
        | @letters first rest leftFirst leftRest =>
            have letters : ∀ letter ∈ first :: rest, letter.isAlpha = true :=
              List.forall_mem_cons.mpr ⟨leftFirst, leftRest⟩
            exact isDigit_eq_false_of_isAlpha
              (letters _ (List.getLast_mem _))
        | number leftFirst leftDigits =>
            exact absurd ⟨isNumber_cons_iff.mpr ⟨leftFirst, leftDigits⟩,
              isNumber_cons_iff.mpr ⟨firstDigit, digits⟩⟩ apart
      simp [continuesWord, notLower, lettersBefore]

/-- The words of a class name are read from its characters. -/
theorem splitBy_classWords {words : List (List Char)}
    (areWords : ∀ word ∈ words, ClassWord word)
    (apart : words.IsChain (NotBoth isNumber)) :
    words.flatten.splitBy continuesWord = words := by
  apply List.splitBy_flatten
  · intro empty
    exact (areWords [] empty).ne_nil rfl
  · intro word isWord
    exact isChain_of_classWord (areWords word isWord)
  · apply apart.imp_of_mem_imp
    intro left right leftMember rightMember notBoth
    have leftWord := areWords left leftMember
    have rightWord := areWords right rightMember
    exact ⟨leftWord.ne_nil, rightWord.ne_nil,
      continuesWord_getLast_head leftWord rightWord notBoth⟩

/-- The words of a label in lowercase, with numbers in a row joined. -/
def joinedWords (label : String) : List (List Char) :=
  joinNumbers ((words label).map lowercaseWord)

/-- The words of a class name, read from its characters. -/
def classWords (label : String) : List (List Char) :=
  joinNumbers ((words label).map capitalize)

theorem toList_className_eq_flatten (label : String) :
    (className label).toList = (classWords label).flatten := by
  rw [className, String.toList_ofList, classWords, flatten_joinNumbers]
  rfl

section Ascii

variable {label : String} (ascii : label.toList.all isAscii = true)

include ascii

theorem classWord_of_mem_map_capitalize :
    ∀ word ∈ (words label).map capitalize, ClassWord word := by
  rw [List.forall_mem_map]
  intro word isWord
  exact classWord_capitalize (plainWord_of_mem_words ascii word isWord)

theorem splitBy_className :
    (className label).toList.splitBy continuesWord = classWords label := by
  rw [toList_className_eq_flatten]
  apply splitBy_classWords
  · apply wordOf_of_mem_joinNumbers
    exact classWord_of_mem_map_capitalize ascii
  · exact isChain_joinNumbers _

theorem joinedWords_eq_map_lowercaseWord :
    joinedWords label = (classWords label).map lowercaseWord := by
  have plain := plainWord_of_mem_words ascii
  have lowered : (words label).map lowercaseWord =
      ((words label).map capitalize).map lowercaseWord := by
    rw [List.map_map]
    apply List.map_congr_left
    intro word isWord
    exact (lowercaseWord_capitalize (plain word isWord)).symm
  rw [joinedWords, classWords, lowered]
  apply joinNumbers_map changesLetters_lowercaseWord
  intro word isWord
  exact (classWord_of_mem_map_capitalize ascii word isWord).plain

theorem classWords_eq_map_capitalize :
    classWords label = (joinedWords label).map capitalize := by
  have plain := plainWord_of_mem_words ascii
  have capitalized : (words label).map capitalize =
      ((words label).map lowercaseWord).map capitalize := by
    rw [List.map_map]
    apply List.map_congr_left
    intro word isWord
    exact (capitalize_lowercaseWord (plain word isWord)).symm
  rw [joinedWords, classWords, capitalized]
  apply joinNumbers_map changesLetters_capitalize
  rw [List.forall_mem_map]
  intro word isWord
  exact (smallWord_lowercaseWord (plain word isWord)).plain

theorem joinedWords_of_isChain
    (apart : (words label).IsChain (NotBoth isNumber)) :
    joinedWords label = (words label).map lowercaseWord := by
  apply joinNumbers_of_isChain
  rw [isChain_notBoth_map]
  · exact apart
  · intro word isWord
    exact changesLetters_lowercaseWord.isNumber_eq word
      (plainWord_of_mem_words ascii word isWord)

end Ascii

/-- Two ASCII labels refer to one class if and only if their words agree in
lowercase, numbers in a row being read as one number. So where no two numbers
stand side by side, the words themselves agree in lowercase. -/
theorem sameClass_iff_joinedWords {left right : String}
    (leftAscii : left.toList.all isAscii = true)
    (rightAscii : right.toList.all isAscii = true) :
    (sameClass left right = true ↔ joinedWords left = joinedWords right) ∧
      ((words left).IsChain (NotBoth isNumber) →
        (words right).IsChain (NotBoth isNumber) →
        (sameClass left right = true ↔
          (words left).map lowercaseWord =
            (words right).map lowercaseWord)) := by
  have joined : sameClass left right = true ↔
      joinedWords left = joinedWords right := by
    rw [sameClass, beq_iff_eq]
    constructor
    · intro sameName
      rw [joinedWords_eq_map_lowercaseWord leftAscii,
        joinedWords_eq_map_lowercaseWord rightAscii,
        ← splitBy_className leftAscii, ← splitBy_className rightAscii,
        sameName]
    · intro sameWords
      apply String.toList_inj.mp
      rw [toList_className_eq_flatten, toList_className_eq_flatten,
        classWords_eq_map_capitalize leftAscii,
        classWords_eq_map_capitalize rightAscii, sameWords]
  refine ⟨joined, fun leftApart rightApart => ?_⟩
  rw [joined, joinedWords_of_isChain leftAscii leftApart,
    joinedWords_of_isChain rightAscii rightApart]

/-- Separators and case make no difference, and neither does the place where a
row of digits is broken. -/
theorem sameClass_of_split_digits :
    sameClass "Order 1 2 HTTPServer" "ORDER12-http_server" = true ∧
      (words "Order 1 2 HTTPServer").map lowercaseWord ≠
        (words "ORDER12-http_server").map lowercaseWord ∧
      ¬ sameClass "unit a b" "unit ab" = true := by
  have joined : joinedWords "Order 1 2 HTTPServer" =
      joinedWords "ORDER12-http_server" := by
    decide +kernel
  have apart : (words "unit a b").IsChain (NotBoth isNumber) ∧
      (words "unit ab").IsChain (NotBoth isNumber) := by
    decide +kernel
  refine ⟨?_, by decide +kernel, ?_⟩
  · exact (sameClass_iff_joinedWords (by decide) (by decide)).1.mpr joined
  · rw [(sameClass_iff_joinedWords (by decide) (by decide)).2 apart.1 apart.2]
    decide +kernel

end AggregateRules.Label
