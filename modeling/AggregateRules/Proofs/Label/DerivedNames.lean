import AggregateRules.Proofs.Label.SameClass
import AggregateRules.Proofs.Label.Splitting

/-!
# Labels made of derived names

A name that was derived from a label can itself be read as a label. The names of
files and constants keep their words apart by separators. In the names of
classes and properties a word is told from the one before it by its capital
alone. So two words of one letter each run together there, and such a name
refers to another class than its label, see `sameClass_derivedNames`.
-/

namespace AggregateRules.Label

open Unicode

/-- A word whose characters are all of one class. -/
def OneClass (word : List Char) : Prop :=
  word ≠ [] ∧ ∃ kind, ∀ character ∈ word, characterClass? character = some kind

theorem holds_eq_false_of_separator {character : Char}
    (separator : isAlphanumeric character = false) (kind : CharacterClass) :
    kind.holds character = false := by
  rw [Bool.eq_false_iff]
  intro holds
  rw [← characterClass?_eq_some_iff] at holds
  have letter := (isSome_characterClass?_iff character).mp
    (Option.isSome_iff_exists.mpr ⟨kind, holds⟩)
  exact Bool.false_ne_true (separator.symm.trans letter)

/-- The first word goes up to the separator behind it. -/
theorem firstWord_append_of_separator {first : Char} {more rest : List Char}
    {kind : CharacterClass} (known : characterClass? first = some kind)
    (alike : ∀ character ∈ more, characterClass? character = some kind)
    (separated : ∀ next ∈ rest.head?, isAlphanumeric next = false) :
    firstWord first (more ++ rest) = (first :: more, rest) := by
  have inside : ∀ character ∈ more, kind.holds character = true := by
    intro character member
    exact characterClass?_eq_some_iff.mp (alike character member)
  have outside (kind : CharacterClass) :
      rest.takeWhile kind.holds = [] ∧ rest.dropWhile kind.holds = rest := by
    cases rest with
    | nil => exact ⟨rfl, rfl⟩
    | cons next others =>
        have fails := holds_eq_false_of_separator (separated next rfl) kind
        rw [List.takeWhile_cons_of_neg (by simp [fails]),
          List.dropWhile_cons_of_neg (by simp [fails])]
        exact ⟨rfl, rfl⟩
  have noSmall : (rest.head?.map isLowercase).getD false = false := by
    cases rest with
    | nil => rfl
    | cons next others =>
        exact holds_eq_false_of_separator (separated next rfl) .lower
  rw [firstWord, alike_eq_holds known, List.takeWhile_append_of_pos inside,
    List.dropWhile_append_of_pos inside, (outside kind).1, (outside kind).2,
    List.append_nil]
  simp [noSmall]

theorem splitWords_append {word rest : List Char} (oneClass : OneClass word)
    (separated : ∀ next ∈ rest.head?, isAlphanumeric next = false) :
    splitWords (word ++ rest) = word :: splitWords rest := by
  obtain ⟨nonempty, kind, alike⟩ := oneClass
  obtain ⟨first, more, rfl⟩ := List.exists_cons_of_ne_nil nonempty
  obtain ⟨known, alike⟩ := List.forall_mem_cons.mp alike
  have letter : isAlphanumeric first = true := by
    rw [← isSome_characterClass?_iff, known]
    rfl
  rw [List.cons_append, splitWords, if_pos letter,
    firstWord_append_of_separator known alike separated]

/-- Words of one class each are read back when separators stand between
them. -/
theorem splitWords_intercalate {separator : Char}
    (isSeparator : isAlphanumeric separator = false)
    {words : List (List Char)} (oneClass : ∀ word ∈ words, OneClass word) :
    splitWords (List.intercalate [separator] words) = words := by
  induction words with
  | nil =>
      rw [List.intercalate_nil, splitWords]
  | cons word rest ih =>
      rw [List.forall_mem_cons] at oneClass
      cases rest with
      | nil =>
          rw [List.intercalate_singleton, ← List.append_nil word,
            splitWords_append oneClass.1 (by simp), splitWords,
            List.append_nil]
      | cons next others =>
          rw [List.intercalate_cons_cons, List.append_assoc,
            splitWords_append oneClass.1]
          · rw [List.singleton_append, splitWords,
              if_neg (Bool.eq_false_iff.mp isSeparator), ih oneClass.2]
          · intro character isNext
            cases isNext
            exact isSeparator

/-- The characters behind another one as the class name of their text has them:
in uppercase where a word starts and in lowercase elsewhere. -/
def recase (left : Char) : List Char → List Char
  | [] => []
  | right :: rest =>
      (if cutsBetween left right rest.head? then toUppercase right
        else toLowercase right) ++ recase right rest

theorem flatMap_capitalize_cuts (first : Char) (rest : List Char) :
    (cuts (first :: rest)).flatMap capitalize =
      toUppercase first ++ recase first rest := by
  induction rest generalizing first with
  | nil => simp [cuts, capitalize, recase]
  | cons second rest ih =>
      rw [cuts, recase]
      split
      · rw [List.flatMap_cons, ih, capitalize, List.flatMap_nil,
          List.append_nil]
      · obtain ⟨piece, others, equation⟩ := exists_cuts_cons second rest
        have behind := ih second
        rw [equation, List.flatMap_cons, capitalize, List.append_assoc,
          List.append_cancel_left_eq] at behind
        rw [equation, List.modifyHead_cons, List.flatMap_cons, capitalize,
          List.flatMap_cons, List.append_assoc, List.append_assoc, behind]

/-- A text without separators is cut into its words. -/
theorem splitWords_eq_cuts {text : List Char}
    (letters : ∀ character ∈ text, isAlphanumeric character = true) :
    splitWords text = cuts text := by
  rw [splitWords_eq_filter_cuts, List.filter_eq_self]
  intro piece isPiece
  apply List.all_eq_true.mpr
  intro character member
  apply letters
  rw [← flatten_cuts text]
  exact List.mem_flatten.mpr ⟨piece, isPiece, member⟩

theorem toList_className_ofList {first : Char} {rest : List Char}
    (letters : ∀ character ∈ first :: rest, isAlphanumeric character = true) :
    (className (String.ofList (first :: rest))).toList =
      toUppercase first ++ recase first rest := by
  rw [className, String.toList_ofList, words, String.toList_ofList,
    splitWords_eq_cuts letters]
  exact flatMap_capitalize_cuts first rest

/-- Whether a word is a single letter. -/
def isLetter : List Char → Bool
  | [letter] => letter.isAlpha
  | _ => false

theorem cutsBetween_of_isLower {left right : Char}
    (letter : left.isAlpha = true) (small : right.isLower = true)
    (behind : Option Char) : cutsBetween left right behind = false := by
  have rightClass := characterClass?_of_isLower small
  rw [Char.isAlpha, Bool.or_eq_true] at letter
  cases letter with
  | inl upper =>
      have leftClass := characterClass?_of_isUpper upper
      simp [cutsBetween, leftClass, rightClass]
  | inr lower =>
      have leftClass := characterClass?_of_isLower lower
      simp [cutsBetween, leftClass, rightClass]

/-- A capital starts a word unless it stands behind another capital and not
before a small letter. -/
theorem cutsBetween_of_isUpper {left right : Char}
    (alphanum : left.isAlphanum = true) (capital : right.isUpper = true)
    (behind : Option Char) :
    cutsBetween left right behind =
      (!left.isUpper || behind.any isLowercase) := by
  have rightClass := characterClass?_of_isUpper capital
  rw [Char.isAlphanum, Char.isAlpha, Bool.or_eq_true, Bool.or_eq_true]
    at alphanum
  rcases alphanum with (upper | lower) | digit
  · have leftClass := characterClass?_of_isUpper upper
    simp [cutsBetween, leftClass, rightClass, upper]
  · have leftClass := characterClass?_of_isLower lower
    have notUpper := Bool.eq_false_iff.mpr (Char.not_isUpper_of_isLower lower)
    simp [cutsBetween, leftClass, rightClass, notUpper]
  · have leftClass := characterClass?_of_isDigit digit
    have notUpper := (uncased_of_asciiDigit digit).1
    simp [cutsBetween, leftClass, rightClass, notUpper]

theorem toUppercase_of_not_isLower {character : Char}
    (ascii : isAscii character = true) (notLower : ¬ character.isLower = true) :
    toUppercase character = [character] := by
  rw [(agreesWithTables_of_isAscii ascii).toUpper,
    Char.toUpper_eq_of_not_isLower notLower]

theorem toLowercase_of_not_isUpper {character : Char}
    (ascii : isAscii character = true) (notUpper : ¬ character.isUpper = true) :
    toLowercase character = [character] := by
  rw [(agreesWithTables_of_isAscii ascii).toLower,
    Char.toLower_eq_of_not_isUpper notUpper]

/-- Behind its first character a word is written as its class name has it. -/
theorem recase_append {first : Char} {more : List Char}
    (isWord : NameWord (first :: more))
    (rest : List Char) :
    recase first (more ++ rest) =
      more ++ recase (more.getLastD first) rest := by
  induction more generalizing first with
  | nil => rfl
  | cons second others ih =>
      have kept : (if cutsBetween first second (others ++ rest).head? then
          toUppercase second else toLowercase second) = [second] ∧
          NameWord (second :: others) := by
        cases isWord with
        | letters firstLetter small =>
            obtain ⟨secondSmall, othersSmall⟩ := List.forall_mem_cons.mp small
            have letter := isAlpha_of_isLower secondSmall
            have ascii := isAscii_of_isAlphanum (isAlphanum_of_isAlpha letter)
            have joined : ¬ cutsBetween first second
                (others ++ rest).head? = true := by
              rw [cutsBetween_of_isLower firstLetter secondSmall]
              exact Bool.false_ne_true
            rw [if_neg joined, toLowercase_of_not_isUpper ascii
              (Char.not_isUpper_of_isLower secondSmall)]
            exact ⟨rfl, .letters letter othersSmall⟩
        | number firstDigit digits =>
            obtain ⟨secondDigit, othersDigits⟩ := List.forall_mem_cons.mp digits
            have ascii :=
              isAscii_of_isAlphanum (isAlphanum_of_isDigit secondDigit)
            obtain ⟨notUpper, notLower⟩ := uncased_of_asciiDigit secondDigit
            rw [toUppercase_of_not_isLower ascii
                (Bool.eq_false_iff.mp notLower),
              toLowercase_of_not_isUpper ascii (Bool.eq_false_iff.mp notUpper),
              ite_self]
            exact ⟨rfl, .number secondDigit othersDigits⟩
      rw [List.cons_append, recase, kept.1, ih kept.2, List.getLastD_cons]
      rfl

/-- Only a word of a single letter ends with a capital. -/
theorem isUpper_getLastD {first : Char} {more : List Char}
    (isWord : ClassWord (first :: more)) :
    (more.getLastD first).isUpper = isLetter (first :: more) := by
  cases isWord with
  | letters firstUpper small =>
      cases more with
      | nil => exact firstUpper.trans (isAlpha_of_isUpper firstUpper).symm
      | cons second others =>
          rw [List.getLastD_cons]
          have lower := small _ List.getLastD_mem_cons
          exact Bool.eq_false_iff.mpr (Char.not_isUpper_of_isLower lower)
  | number firstDigit digits =>
      have allDigits : ∀ digit ∈ first :: more, digit.isDigit = true :=
        List.forall_mem_cons.mpr ⟨firstDigit, digits⟩
      have digit := allDigits _ List.getLastD_mem_cons
      rw [(uncased_of_asciiDigit digit).1]
      cases more with
      | nil => simp [isLetter, Char.isAlpha, uncased_of_asciiDigit firstDigit]
      | cons second others => rfl

theorem isUpper_of_isLetter {first : Char} {more : List Char}
    (isWord : ClassWord (first :: more))
    (letter : isLetter (first :: more) = true) : first.isUpper = true := by
  cases isWord with
  | letters firstUpper small => exact firstUpper
  | number firstDigit digits =>
      cases more with
      | nil =>
          have noDigit := isDigit_eq_false_of_isAlpha letter
          exact absurd (noDigit.symm.trans firstDigit) Bool.false_ne_true
      | cons second others => exact absurd letter Bool.false_ne_true

/-- No word of a class name starts with a small letter. -/
theorem head_flatten_not_small {words : List (List Char)}
    (areWords : ∀ word ∈ words, ClassWord word) :
    words.flatten.head?.any isLowercase = false := by
  cases words with
  | nil => rfl
  | cons word rest =>
      have isWord := (List.forall_mem_cons.mp areWords).1
      have alphanum := isAlphanum_of_mem_plainWord isWord.plain
      have notSmall {first : Char} (alphanum : first.isAlphanum = true)
          (notLower : ¬ first.isLower = true) : isLowercase first = false := by
        have ascii := isAscii_of_isAlphanum alphanum
        rw [(agreesWithTables_of_isAscii ascii).lower]
        exact Bool.eq_false_iff.mpr notLower
      cases isWord with
      | letters firstUpper small =>
          exact notSmall (alphanum _ List.mem_cons_self)
            (Char.not_isLower_of_isUpper firstUpper)
      | number firstDigit digits =>
          exact notSmall (alphanum _ List.mem_cons_self)
            (Bool.eq_false_iff.mp (uncased_of_asciiDigit firstDigit).2)

/-- A single letter behind another one is not seen as the start of a word. -/
theorem recase_first {left first : Char} {more rest : List Char}
    (alphanum : left.isAlphanum = true) (isWord : ClassWord (first :: more))
    (behind : rest.head?.any isLowercase = false) :
    (if cutsBetween left first (more ++ rest).head? then toUppercase first
      else toLowercase first) =
      if left.isUpper && isLetter (first :: more) then [first.toLower]
        else [first] := by
  have ascii := isAscii_of_mem_plainWord isWord.plain first List.mem_cons_self
  cases isWord with
  | letters firstUpper small =>
      have starts : cutsBetween left first (more ++ rest).head? =
          !(left.isUpper && isLetter (first :: more)) := by
        rw [cutsBetween_of_isUpper alphanum firstUpper, Bool.not_and]
        congr 1
        cases more with
        | nil =>
            rw [List.nil_append, behind, isLetter,
              isAlpha_of_isUpper firstUpper]
            rfl
        | cons second others =>
            have lower := (List.forall_mem_cons.mp small).1
            exact characterClass?_eq_some_iff.mp
              (characterClass?_of_isLower lower)
      rw [starts, (agreesWithTables_of_isAscii ascii).toLower,
        toUppercase_of_not_isLower ascii
          (Char.not_isLower_of_isUpper firstUpper)]
      cases left.isUpper && isLetter (first :: more) <;> rfl
  | number firstDigit digits =>
      obtain ⟨notUpper, notLower⟩ := uncased_of_asciiDigit firstDigit
      have kept : first.toLower = first :=
        changesCase_toLower.digit first firstDigit
      rw [toUppercase_of_not_isLower ascii (Bool.eq_false_iff.mp notLower),
        toLowercase_of_not_isUpper ascii (Bool.eq_false_iff.mp notUpper), kept,
        ite_self, ite_self]

/-- The words behind a character are all kept by a class name if and only if no
two single letters stand side by side. -/
theorem recase_flatten_iff {left : Char} {words : List (List Char)}
    (alphanum : left.isAlphanum = true)
    (areWords : ∀ word ∈ words, ClassWord word) :
    recase left words.flatten = words.flatten ↔
      (left.isUpper = true → ∀ next ∈ words.head?, isLetter next = false) ∧
        words.IsChain (NotBoth isLetter) := by
  induction words generalizing left with
  | nil => simp [recase]
  | cons word rest ih =>
      obtain ⟨isWord, restWords⟩ := List.forall_mem_cons.mp areWords
      obtain ⟨first, more, rfl⟩ := List.exists_cons_of_ne_nil isWord.ne_nil
      have lastAlphanum := isAlphanum_of_mem_plainWord isWord.plain _
        List.getLastD_mem_cons
      have keepsRest : recase (more.getLastD first) rest.flatten =
          rest.flatten ↔
            ((first :: more) :: rest).IsChain (NotBoth isLetter) := by
        rw [ih lastAlphanum restWords, isUpper_getLastD isWord,
          isChain_notBoth_cons]
      rw [List.flatten_cons, List.cons_append, recase,
        recase_first alphanum isWord (head_flatten_not_small restWords),
        recase_append isWord.nameWord]
      by_cases runTogether : (left.isUpper && isLetter (first :: more)) = true
      · rw [if_pos runTogether, List.singleton_append, List.cons.injEq]
        obtain ⟨leftUpper, letter⟩ := (Bool.and_eq_true _ _).mp runTogether
        apply iff_of_false
        · intro kept
          have firstUpper := isUpper_of_isLetter isWord letter
          have lowered := Char.isUpper_toLower_eq_false first
          rw [kept.1, firstUpper] at lowered
          exact Bool.false_ne_true lowered.symm
        · intro apart
          have noLetter := apart.1 leftUpper _ rfl
          exact Bool.false_ne_true (noLetter.symm.trans letter)
      · rw [if_neg runTogether, List.singleton_append, List.cons.injEq,
          List.append_cancel_left_eq, keepsRest]
        have apart : left.isUpper = true →
            ∀ next ∈ ((first :: more) :: rest).head?,
              isLetter next = false := by
          intro leftUpper next isNext
          cases isNext
          rw [Bool.eq_false_iff]
          intro letter
          exact runTogether ((Bool.and_eq_true _ _).mpr ⟨leftUpper, letter⟩)
        rw [eq_self, true_and, and_iff_right apart]

theorem WordOf.oneClass {test : Char → Bool} {kind : CharacterClass}
    {word : List Char}
    (classOf : ∀ letter, test letter = true →
      characterClass? letter = some kind)
    (isWord : WordOf test test word) : OneClass word := by
  refine ⟨isWord.ne_nil, ?_⟩
  cases isWord with
  | letters first rest =>
      refine ⟨kind, List.forall_mem_cons.mpr ⟨classOf _ first, ?_⟩⟩
      intro letter member
      exact classOf letter (rest letter member)
  | number first rest =>
      refine ⟨.digit, List.forall_mem_cons.mpr
        ⟨characterClass?_of_isDigit first, ?_⟩⟩
      intro digit member
      exact characterClass?_of_isDigit (rest digit member)

/-- Behind its first character a word of a class or a property has no
capitals. -/
theorem isUpper_eq_false_of_mem {starts : Char → Bool} {first : Char}
    {more : List Char} (isWord : WordOf starts Char.isLower (first :: more)) :
    ∀ character ∈ more, character.isUpper = false := by
  intro character member
  cases isWord with
  | letters firstLetter small =>
      exact Bool.eq_false_iff.mpr
        (Char.not_isUpper_of_isLower (small character member))
  | number firstDigit digits =>
      exact (uncased_of_asciiDigit (digits character member)).1

theorem isUpper_eq_false_of_smallWord {word : List Char}
    (isWord : SmallWord word) :
    ∀ character ∈ word, character.isUpper = false := by
  cases word with
  | nil => exact fun _ member => absurd member List.not_mem_nil
  | cons first more =>
      refine List.forall_mem_cons.mpr ⟨?_, isUpper_eq_false_of_mem isWord⟩
      cases isWord with
      | letters firstLower small =>
          exact Bool.eq_false_iff.mpr (Char.not_isUpper_of_isLower firstLower)
      | number firstDigit digits => exact (uncased_of_asciiDigit firstDigit).1

theorem flatMap_toLowercase_of_word {first : Char} {more : List Char}
    (isWord : NameWord (first :: more)) :
    more.flatMap toLowercase = more := by
  have ascii := isAscii_of_mem_plainWord isWord.plain
  calc more.flatMap toLowercase
      = more.map Char.toLower :=
        flatMap_toLowercase_of_isAscii (List.forall_mem_cons.mp ascii).2
    _ = more.map id := List.map_congr_left fun character member =>
        Char.toLower_eq_of_not_isUpper
          (Bool.eq_false_iff.mp (isUpper_eq_false_of_mem isWord _ member))
    _ = more := List.map_id more

theorem sameClass_empty {label : String} (noWords : words label = []) :
    sameClass label "" = true := by
  rw [sameClass, beq_iff_eq, className, className, noWords, words,
    String.toList_empty, splitWords]

theorem isLetter_capitalize {word : List Char} (plain : PlainWord word) :
    isLetter (capitalize word) = isLetter word := by
  rw [capitalize_of_plainWord plain]
  match word with
  | [] => rfl
  | [letter] => exact Char.isAlpha_toUpper_eq_isAlpha letter
  | _ :: _ :: _ => rfl

/-- A name of separated words refers to the class of its label if the words are
capitalized alike. -/
theorem sameClass_intercalate {label : String} {separator : Char}
    {change : List Char → List Char}
    (isSeparator : isAlphanumeric separator = false)
    (oneClass : ∀ word ∈ words label, OneClass (change word))
    (capitalizes : ∀ word ∈ words label,
      capitalize (change word) = capitalize word) :
    sameClass label (String.ofList
      (List.intercalate [separator] ((words label).map change))) = true := by
  have readBack : words (String.ofList
      (List.intercalate [separator] ((words label).map change))) =
        (words label).map change := by
    rw [words, String.toList_ofList]
    apply splitWords_intercalate isSeparator
    rw [List.forall_mem_map]
    exact oneClass
  rw [sameClass, beq_iff_eq, className, className, readBack, List.flatMap_map]
  exact congrArg String.ofList (List.flatMap_congr capitalizes).symm

section Joined

variable {rest : List (List Char)} (plain : ∀ other ∈ rest, PlainWord other)
  {first : Char} {more : List Char}
  (isWord : NameWord (first :: more))

include plain isWord

/-- The class name of words that run together. -/
theorem toList_className_joined :
    (className (String.ofList
      (first :: more ++ rest.flatMap capitalize))).toList =
        toUppercase first ++ (more ++
          recase (more.getLastD first) (rest.map capitalize).flatten) := by
  have letters : ∀ character ∈ first :: (more ++ rest.flatMap capitalize),
      isAlphanumeric character = true := by
    intro character member
    rw [← List.cons_append, List.mem_append] at member
    apply isAlphanumeric_of_isAlphanum
    cases member with
    | inl inStart =>
        exact isAlphanum_of_mem_plainWord isWord.plain character inStart
    | inr inRest =>
        obtain ⟨other, isOther, inOther⟩ := List.mem_flatMap.mp inRest
        have isClassWord := classWord_capitalize (plain other isOther)
        exact isAlphanum_of_mem_plainWord isClassWord.plain character inOther
  rw [List.cons_append, toList_className_ofList letters, recase_append isWord]
  rfl

theorem recase_joined_iff :
    recase (more.getLastD first) (rest.map capitalize).flatten =
        (rest.map capitalize).flatten ↔
      ((more.getLastD first).isUpper = true →
        ∀ next ∈ rest.head?, isLetter next = false) ∧
        rest.IsChain (NotBoth isLetter) := by
  have lastAlphanum := isAlphanum_of_mem_plainWord isWord.plain _
    List.getLastD_mem_cons
  have classWords : ∀ other ∈ rest.map capitalize, ClassWord other := by
    rw [List.forall_mem_map]
    intro other member
    exact classWord_capitalize (plain other member)
  rw [recase_flatten_iff lastAlphanum classWords, isChain_notBoth_map]
  · apply and_congr_left
    intro _
    cases rest with
    | nil => rfl
    | cons next others =>
        have sameLetter := isLetter_capitalize (plain next List.mem_cons_self)
        simp [sameLetter]
  · intro other member
    exact isLetter_capitalize (plain other member)

end Joined

section Ascii

variable {label : String} (ascii : label.toList.all isAscii = true)

include ascii

theorem sameClass_fileName : sameClass label (fileName label) = true := by
  have plain := plainWord_of_mem_words ascii
  apply sameClass_intercalate
  · decide +kernel
  · intro word isWord
    exact (smallWord_lowercaseWord (plain word isWord)).oneClass
      fun _ => characterClass?_of_isLower
  · intro word isWord
    exact capitalize_lowercaseWord (plain word isWord)

theorem sameClass_constantName :
    sameClass label (constantName label) = true := by
  have plain := plainWord_of_mem_words ascii
  apply sameClass_intercalate
  · decide +kernel
  · intro word isWord
    exact (capitalWord_uppercaseWord (plain word isWord)).oneClass
      fun _ => characterClass?_of_isUpper
  · intro word isWord
    exact capitalize_uppercaseWord (plain word isWord)

theorem plainWord_of_words_eq {word : List Char} {rest : List (List Char)}
    (labelWords : words label = word :: rest) :
    PlainWord word ∧ ∀ other ∈ rest, PlainWord other := by
  have plain := plainWord_of_mem_words ascii
  rw [labelWords] at plain
  exact List.forall_mem_cons.mp plain

/-- A name of words that run together refers to the class of its label if and
only if no single letter stands behind a capital. -/
theorem sameClass_ofList_iff {word : List Char} {rest : List (List Char)}
    (labelWords : words label = word :: rest) {first : Char} {more : List Char}
    (isWord : NameWord (first :: more))
    (capitalizes : capitalize (first :: more) = capitalize word) :
    sameClass label
        (String.ofList (first :: more ++ rest.flatMap capitalize)) = true ↔
      ((more.getLastD first).isUpper = true →
        ∀ next ∈ rest.head?, isLetter next = false) ∧
        rest.IsChain (NotBoth isLetter) := by
  have plain := (plainWord_of_words_eq ascii labelWords).2
  have labelName : (className label).toList =
      toUppercase first ++ (more ++ (rest.map capitalize).flatten) := by
    rw [className, String.toList_ofList, labelWords, List.flatMap_cons,
      ← capitalizes, capitalize, flatMap_toLowercase_of_word isWord,
      List.append_assoc]
    rfl
  rw [sameClass, beq_iff_eq, ← String.toList_inj, labelName,
    toList_className_joined plain isWord, List.append_cancel_left_eq,
    List.append_cancel_left_eq, eq_comm]
  exact recase_joined_iff plain isWord

theorem sameClass_className_iff :
    sameClass label (className label) = true ↔
      (words label).IsChain (NotBoth isLetter) := by
  cases labelWords : words label with
  | nil =>
      have noName : className label = "" := by
        rw [className, labelWords]
        rfl
      rw [noName]
      exact iff_of_true (sameClass_empty labelWords) List.isChain_nil
  | cons word rest =>
      have plain := (plainWord_of_words_eq ascii labelWords).1
      have isWord := classWord_capitalize plain
      obtain ⟨first, more, start⟩ := List.exists_cons_of_ne_nil isWord.ne_nil
      have again := capitalize_capitalize plain
      have sameLetter := isLetter_capitalize plain
      rw [start] at isWord again sameLetter
      rw [className, labelWords, List.flatMap_cons, start,
        sameClass_ofList_iff ascii labelWords isWord.nameWord
          (again.trans start.symm),
        isUpper_getLastD isWord, sameLetter, isChain_notBoth_cons]

theorem sameClass_propertyName_iff :
    sameClass label (propertyName label) = true ↔
      (words label).tail.IsChain (NotBoth isLetter) := by
  cases labelWords : words label with
  | nil =>
      have noName : propertyName label = "" := by
        rw [propertyName, labelWords]
      rw [noName]
      exact iff_of_true (sameClass_empty labelWords) List.isChain_nil
  | cons word rest =>
      have plain := (plainWord_of_words_eq ascii labelWords).1
      have isWord := smallWord_lowercaseWord plain
      have again := capitalize_lowercaseWord plain
      obtain ⟨first, more, start⟩ := List.exists_cons_of_ne_nil isWord.ne_nil
      rw [start] at isWord again
      have noCapital : ¬ (more.getLastD first).isUpper = true := by
        rw [Bool.not_eq_true]
        exact isUpper_eq_false_of_smallWord isWord _ List.getLastD_mem_cons
      have name : propertyName label =
          String.ofList (first :: more ++ rest.flatMap capitalize) := by
        rw [propertyName, labelWords]
        exact congrArg (fun start => String.ofList (start ++ _)) start
      rw [name, sameClass_ofList_iff ascii labelWords isWord.nameWord again]
      exact and_iff_right fun capital => absurd capital noCapital

end Ascii

/-- The names of an ASCII label for files and constants refer to the class of
the label. The name for classes does so if and only if no two of the words that
stand side by side are single letters, and the name for properties if and only
if no two such words stand behind the first word. -/
theorem sameClass_derivedNames {label : String}
    (ascii : label.toList.all isAscii = true) :
    sameClass label (fileName label) = true ∧
      sameClass label (constantName label) = true ∧
      (sameClass label (className label) = true ↔
        (words label).IsChain (NotBoth isLetter)) ∧
      (sameClass label (propertyName label) = true ↔
        (words label).tail.IsChain (NotBoth isLetter)) :=
  ⟨sameClass_fileName ascii, sameClass_constantName ascii,
    sameClass_className_iff ascii, sameClass_propertyName_iff ascii⟩

/-- Two single letters at the start run together in the name of the class but
not in the name of the property; behind another word they do so in both. In the
name of a file they stay apart. -/
theorem sameClass_derivedNames_of_letters :
    "A bay 2".toList.all isAscii = true ∧
      sameClass "A bay 2" (className "A bay 2") = true ∧
      "x y axis".toList.all isAscii = true ∧
      fileName "x y axis" = "x-y-axis" ∧
      sameClass "x y axis" "x-y-axis" = true ∧
      constantName "x y axis" = "X_Y_AXIS" ∧
      sameClass "x y axis" "X_Y_AXIS" = true ∧
      ¬ sameClass "x y axis" (className "x y axis") = true ∧
      sameClass "x y axis" (propertyName "x y axis") = true ∧
      ¬ sameClass "Plan b c 2" (propertyName "Plan b c 2") = true := by
  have bay := @sameClass_derivedNames "A bay 2" (by decide)
  have axis := @sameClass_derivedNames "x y axis" (by decide)
  have plan := @sameClass_derivedNames "Plan b c 2" (by decide)
  have file : fileName "x y axis" = "x-y-axis" := by decide +kernel
  have constant : constantName "x y axis" = "X_Y_AXIS" := by decide +kernel
  refine ⟨by decide, bay.2.2.1.mpr ?_, by decide, file, file ▸ axis.1,
    constant, constant ▸ axis.2.1, ?_, axis.2.2.2.mpr ?_, ?_⟩
  · decide +kernel
  · rw [axis.2.2.1]
    decide +kernel
  · decide +kernel
  · rw [plan.2.2.2]
    decide +kernel

end AggregateRules.Label
