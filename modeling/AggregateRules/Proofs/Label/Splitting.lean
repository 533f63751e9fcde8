import AggregateRules.Label.ClassName
import AggregateRules.Proofs.Label.Word

/-!
# Where a label is cut

The words of a label have three descriptions. `splitWords` takes one word after
the other from the text. `cuts` tells for each two neighbours whether a word
ends between them, from the two and the character behind them alone. `Grammar`
is a parser that tries alternatives in order, goes back after it has read too
many capitals, and gives no words at all when it cannot read the whole text.

All three agree on each text, see `words_eq_filter_cuts`; so the parser reads
each text to its end.
-/

namespace AggregateRules.Label

open Unicode

/-- Whether a word or a row of separators ends between two neighbours; `behind`
is the character right behind the two. -/
def cutsBetween (left right : Char) (behind : Option Char) : Bool :=
  match characterClass? left, characterClass? right with
  | some leftClass, some rightClass =>
      leftClass ≠ rightClass && (leftClass, rightClass) ≠ (.upper, .lower) ||
        leftClass = .upper && rightClass = .upper && behind.any isLowercase
  | none, none => false
  | _, _ => true

/-- A text cut at each place where `cutsBetween` tells so. -/
def cuts : List Char → List (List Char)
  | [] => []
  | [last] => [[last]]
  | first :: second :: rest =>
      if cutsBetween first second rest.head? then
        [first] :: cuts (second :: rest)
      else
        (cuts (second :: rest)).modifyHead (first :: ·)

/-- The first piece of a text starts as the text does. -/
theorem exists_cuts_cons (first : Char) (rest : List Char) :
    ∃ piece others, cuts (first :: rest) = (first :: piece) :: others := by
  induction rest generalizing first with
  | nil => exact ⟨[], [], rfl⟩
  | cons second rest ih =>
      obtain ⟨piece, others, equation⟩ := ih second
      rw [cuts, equation]
      split
      · exact ⟨[], _, rfl⟩
      · exact ⟨second :: piece, others, rfl⟩

theorem flatten_cuts (text : List Char) : (cuts text).flatten = text := by
  fun_induction cuts text with
  | case1 => rfl
  | case2 last => rfl
  | case3 first second rest cut ih =>
      rw [List.flatten_cons, ih]
      rfl
  | case4 first second rest joined ih =>
      obtain ⟨piece, others, equation⟩ := exists_cuts_cons second rest
      rw [equation] at ih ⊢
      rw [List.modifyHead_cons, List.flatten_cons, List.cons_append,
        ← List.flatten_cons, ih]

theorem ne_nil_of_mem_cuts {text piece : List Char}
    (member : piece ∈ cuts text) : piece ≠ [] := by
  fun_induction cuts text with
  | case1 => cases member
  | case2 last =>
      rw [List.mem_singleton.mp member]
      exact List.cons_ne_nil last []
  | case3 first second rest cut ih =>
      cases member with
      | head => exact List.cons_ne_nil first []
      | tail _ later => exact ih later
  | case4 first second rest joined ih =>
      obtain ⟨nearest, others, equation⟩ := exists_cuts_cons second rest
      rw [equation] at ih member
      cases member with
      | head => exact List.cons_ne_nil first _
      | tail _ later => exact ih (List.mem_cons_of_mem _ later)

theorem cutsBetween_of_eq {left right : Char} {kind : CharacterClass}
    (known : characterClass? left = some kind)
    (alike : characterClass? right = some kind) (behind : Option Char) :
    cutsBetween left right behind = true ↔
      kind = .upper ∧ behind.any isLowercase = true := by
  simp [cutsBetween, known, alike]

theorem cutsBetween_of_ne {left right : Char} {kind : CharacterClass}
    (known : characterClass? left = some kind)
    (different : characterClass? right ≠ some kind) (behind : Option Char) :
    cutsBetween left right behind = true ↔
      ¬ (kind = .upper ∧ characterClass? right = some .lower) := by
  cases other : characterClass? right with
  | none => simp [cutsBetween, known, other]
  | some otherKind =>
      have unlike : kind ≠ otherKind :=
        fun equal => different (equal ▸ other)
      have notBoth : ¬ (kind = .upper ∧ otherKind = .upper) :=
        fun both => unlike (both.1.trans both.2.symm)
      simp [cutsBetween, known, other, unlike, notBoth, imp_iff_not_or]

/-- Letters and numbers are always cut from separators. -/
theorem isAlphanumeric_eq_of_not_cutsBetween {left right : Char}
    {behind : Option Char} (joined : ¬ cutsBetween left right behind = true) :
    isAlphanumeric left = isAlphanumeric right := by
  rw [Bool.eq_iff_iff, ← isSome_characterClass?_iff,
    ← isSome_characterClass?_iff]
  unfold cutsBetween at joined
  split at joined
  · next leftKnown rightKnown => simp [leftKnown, rightKnown]
  · next leftNone rightNone => simp [leftNone, rightNone]
  · exact (joined rfl).elim

theorem alike_eq_holds {first : Char} {kind : CharacterClass}
    (known : characterClass? first = some kind) :
    (fun character => characterClass? character == characterClass? first) =
      kind.holds := by
  funext character
  rw [known, Bool.eq_iff_iff, beq_iff_eq, characterClass?_eq_some_iff]

theorem firstWord_of_ne_upper {first : Char} {kind : CharacterClass}
    (known : characterClass? first = some kind) (notUpper : kind ≠ .upper)
    (rest : List Char) :
    firstWord first rest =
      (first :: rest.takeWhile kind.holds, rest.dropWhile kind.holds) := by
  have notCapital : characterClass? first ≠ some .upper :=
    fun capital => notUpper (Option.some.inj (known.symm.trans capital))
  rw [firstWord, alike_eq_holds known]
  exact if_neg fun both => notCapital both.1

/-- A single capital takes the small letters behind it. -/
theorem firstWord_of_upper_of_lower {first second : Char}
    (known : characterClass? first = some .upper)
    (small : characterClass? second = some .lower) (rest : List Char) :
    firstWord first (second :: rest) =
      (first :: second :: rest.takeWhile isLowercase,
        rest.dropWhile isLowercase) := by
  have lower : isLowercase second = true :=
    characterClass?_eq_some_iff.mp small
  have notUpper : ¬ CharacterClass.upper.holds second = true := by
    rw [← characterClass?_eq_some_iff, small]
    decide
  rw [firstWord, alike_eq_holds known, List.takeWhile_cons_of_neg notUpper,
    List.dropWhile_cons_of_neg notUpper]
  simp [known, lower]

/-- A capital behind a capital goes with it unless a small letter follows. -/
theorem firstWord_of_upper_of_upper {first second : Char}
    (known : characterClass? first = some .upper)
    (alike : characterClass? second = some .upper) (rest : List Char) :
    firstWord first (second :: rest) =
      if rest.head?.any isLowercase then ([first], second :: rest)
      else (first :: (firstWord second rest).1, (firstWord second rest).2) := by
  have upper : CharacterClass.upper.holds second = true :=
    characterClass?_eq_some_iff.mp alike
  rw [firstWord, firstWord, alike_eq_holds known, alike_eq_holds alike,
    List.takeWhile_cons_of_pos upper, List.dropWhile_cons_of_pos upper]
  simp only [known, alike, true_and]
  cases rest with
  | nil => rfl
  | cons third rest =>
      by_cases capital : CharacterClass.upper.holds third = true
      · have notSmall : ¬ (third :: rest).head?.any isLowercase = true := by
          simp [not_isLowercase_of_isUppercase capital]
        obtain ⟨last, isLast⟩ := Option.isSome_iff_exists.mp
          (List.getLast?_isSome.mpr (List.cons_ne_nil third
            (rest.takeWhile CharacterClass.upper.holds)))
        rw [if_neg notSmall, List.takeWhile_cons_of_pos capital,
          List.dropWhile_cons_of_pos capital, List.getLast?_cons_cons, isLast]
        split
        · rfl
        · rfl
      · rw [List.takeWhile_cons_of_neg capital,
          List.dropWhile_cons_of_neg capital]
        by_cases small : isLowercase third = true
        · simp [small]
        · simp [small]

/-- The first word goes on until the first cut. -/
theorem firstWord_cons {first : Char} (letter : isAlphanumeric first = true)
    (second : Char) (rest : List Char) :
    firstWord first (second :: rest) =
      if cutsBetween first second rest.head? then ([first], second :: rest)
      else (first :: (firstWord second rest).1, (firstWord second rest).2) := by
  obtain ⟨kind, known⟩ := Option.isSome_iff_exists.mp
    ((isSome_characterClass?_iff first).mpr letter)
  -- Within one class only capitals can be cut; of two classes only a capital
  -- and a small letter behind it are not cut.
  by_cases alike : characterClass? second = some kind
  · simp only [cutsBetween_of_eq known alike]
    by_cases capital : kind = .upper
    · subst capital
      simp only [true_and]
      exact firstWord_of_upper_of_upper known alike rest
    · have inside := characterClass?_eq_some_iff.mp alike
      rw [if_neg fun both => capital both.1,
        firstWord_of_ne_upper known capital,
        firstWord_of_ne_upper alike capital,
        List.takeWhile_cons_of_pos inside, List.dropWhile_cons_of_pos inside]
  · simp only [cutsBetween_of_ne known alike]
    by_cases joined : kind = .upper ∧ characterClass? second = some .lower
    · rw [if_neg (not_not_intro joined),
        firstWord_of_upper_of_lower (joined.1 ▸ known) joined.2,
        firstWord_of_ne_upper joined.2 (by decide)]
      rfl
    · have outside : ¬ kind.holds second = true :=
        fun inside => alike (characterClass?_eq_some_iff.mpr inside)
      have notBoth : ¬ (kind = .upper ∧ isLowercase second = true) :=
        fun both => joined ⟨both.1, characterClass?_eq_some_iff.mpr both.2⟩
      rw [if_pos joined, firstWord, alike_eq_holds known,
        List.takeWhile_cons_of_neg outside, List.dropWhile_cons_of_neg outside]
      simp [known, notBoth]

theorem cuts_eq_firstWord_cons {first : Char}
    (letter : isAlphanumeric first = true) (rest : List Char) :
    cuts (first :: rest) =
      (firstWord first rest).1 :: cuts (firstWord first rest).2 := by
  induction rest generalizing first with
  | nil => simp [cuts, firstWord]
  | cons second rest ih =>
      rw [cuts, firstWord_cons letter]
      split
      · rfl
      · next noCut =>
        have alsoLetter : isAlphanumeric second = true :=
          (isAlphanumeric_eq_of_not_cutsBetween noCut).symm.trans letter
        rw [ih alsoLetter]
        rfl

/-- Separators leave no word behind. -/
theorem filter_cuts_cons_of_separator {first : Char}
    (separator : isAlphanumeric first = false) (rest : List Char) :
    (cuts (first :: rest)).filter (·.all isAlphanumeric) =
      (cuts rest).filter (·.all isAlphanumeric) := by
  cases rest with
  | nil => simp [cuts, separator]
  | cons second rest =>
      obtain ⟨piece, others, equation⟩ := exists_cuts_cons second rest
      rw [cuts]
      split
      · exact List.filter_cons_of_neg (by simp [separator])
      · next noCut =>
        have alsoSeparator : isAlphanumeric second = false :=
          (isAlphanumeric_eq_of_not_cutsBetween noCut).symm.trans separator
        rw [equation, List.modifyHead_cons,
          List.filter_cons_of_neg (by simp [separator]),
          List.filter_cons_of_neg (by simp [alsoSeparator])]

theorem splitWords_eq_filter_cuts (text : List Char) :
    splitWords text = (cuts text).filter (·.all isAlphanumeric) := by
  fun_induction splitWords text with
  | case1 => rfl
  | case2 first rest letter ih =>
      have isWord : (firstWord first rest).1.all isAlphanumeric = true :=
        List.all_eq_true.mpr (isAlphanumeric_of_mem_firstWord letter rest)
      rw [cuts_eq_firstWord_cons letter, List.filter_cons, if_pos isWord, ih]
  | case3 first rest separator ih =>
      rw [filter_cuts_cons_of_separator (Bool.not_eq_true _ ▸ separator), ih]

namespace Grammar

/-- A parser takes what it reads from the front of a text, or fails. -/
abbrev Parser (α : Type) := List Char → Option (α × List Char)

/-- One or more characters that pass a test. -/
def run (passes : Char → Bool) : Parser (List Char) := fun text =>
  if text.takeWhile passes = [] then none
  else some (text.takeWhile passes, text.dropWhile passes)

/-- What another parser leaves, or the whole text if that fails. -/
def skip (parser : Parser α) (text : List Char) : List Char :=
  ((parser text).map Prod.snd).getD text

/-- As many items as there are; an item that takes nothing is a failure. -/
def many (parser : Parser α) (text : List Char) :
    Option (List α × List Char) :=
  match parser text with
  | none => some ([], text)
  | some (item, rest) =>
      if rest.length < text.length then
        (many parser rest).map fun (items, rest) => (item :: items, rest)
      else none
termination_by text.length

def separator : Parser (List Char) :=
  run fun character => !isAlphanumeric character

/-- A capital and the small letters behind it. -/
def capitalized : Parser (List Char)
  | [] => none
  | first :: rest =>
      if isUppercase first then
        (run isLowercase rest).map fun (small, rest) => (first :: small, rest)
      else none

/-- A row of capitals. If a small letter follows, the row is read again without
its last capital, which starts the next word. -/
def acronym : Parser (List Char) := fun text => do
  let (capitals, rest) ← run isUppercase text
  if (rest.head?.map isLowercase).getD false ∧ 1 < capitals.length then
    return (text.take (capitals.length - 1), text.drop (capitals.length - 1))
  else
    return (capitals, rest)

/-- The first of the alternatives that does not fail. -/
def word : Parser (List Char) := fun text =>
  [capitalized, acronym, run CharacterClass.lower.holds,
    run CharacterClass.digit.holds, run CharacterClass.other.holds].findSome?
      fun parser => parser text

/-- A word and the separators behind it. -/
def terminatedWord : Parser (List Char) := fun text =>
  (word text).map fun (word, rest) => (word, skip separator rest)

def words : Parser (List (List Char)) := fun text =>
  many terminatedWord (skip separator text)

/-- The words of a text that is read to its end. -/
def parse? (text : List Char) : Option (List (List Char)) :=
  match words text with
  | some (words, []) => some words
  | _ => none

theorem run_cons_of_pos {passes : Char → Bool} {first : Char}
    (passing : passes first = true) (rest : List Char) :
    run passes (first :: rest) =
      some (first :: rest.takeWhile passes, rest.dropWhile passes) := by
  simp [run, passing]

theorem run_cons_of_neg {passes : Char → Bool} {first : Char}
    (failing : ¬ passes first = true) (rest : List Char) :
    run passes (first :: rest) = none := by
  simp [run, failing]

theorem skip_run (passes : Char → Bool) (text : List Char) :
    skip (run passes) text = text.dropWhile passes := by
  cases text with
  | nil => rfl
  | cons first rest =>
      by_cases passing : passes first = true
      · simp [skip, run_cons_of_pos passing, passing]
      · simp [skip, run_cons_of_neg passing, passing]

/-- Only a capital is read by the alternatives for capitals. -/
theorem capitals_fail {first : Char} (notUpper : ¬ isUppercase first = true)
    (rest : List Char) :
    capitalized (first :: rest) = none ∧ acronym (first :: rest) = none :=
  ⟨if_neg notUpper, by simp [acronym, run_cons_of_neg notUpper]⟩

theorem word_of_ne_upper {first : Char} {kind : CharacterClass}
    (known : characterClass? first = some kind) (notUpper : kind ≠ .upper)
    (rest : List Char) :
    word (first :: rest) = some (firstWord first rest) := by
  have inside := characterClass?_eq_some_iff.mp known
  have outside (unlike : CharacterClass) (different : unlike ≠ kind) :
      ¬ unlike.holds first = true := by
    rw [← characterClass?_eq_some_iff, known]
    exact fun equal => different (Option.some.inj equal).symm
  have noCapitals := capitals_fail (outside .upper notUpper.symm) rest
  rw [firstWord_of_ne_upper known notUpper, ← run_cons_of_pos inside]
  cases kind with
  | upper => exact (notUpper rfl).elim
  | lower => simp [word, noCapitals, run_cons_of_pos inside]
  | digit =>
      have notSmall := run_cons_of_neg (outside .lower (by decide)) rest
      simp [word, noCapitals, notSmall, run_cons_of_pos inside]
  | other =>
      have notSmall := run_cons_of_neg (outside .lower (by decide)) rest
      have notDigit := run_cons_of_neg (outside .digit (by decide)) rest
      simp [word, noCapitals, notSmall, notDigit, run_cons_of_pos inside]

/-- The row of capitals is read again up to its last capital. -/
theorem acronym_of_upper {first : Char}
    (known : characterClass? first = some .upper) {rest : List Char}
    (noSmall : (rest.head?.map isLowercase).getD false = false) :
    acronym (first :: rest) = some (firstWord first rest) := by
  have upper : isUppercase first = true := characterClass?_eq_some_iff.mp known
  have alike : CharacterClass.upper.holds = isUppercase := rfl
  have whole := List.takeWhile_append_dropWhile (p := isUppercase) (l := rest)
  rw [firstWord, alike_eq_holds known, alike]
  simp only [acronym, run_cons_of_pos upper, known, true_and]
  cases last : (rest.takeWhile isUppercase).getLast? with
  | none =>
      rw [List.getLast?_eq_none_iff] at last
      rw [last, List.nil_append] at whole
      rw [whole, last]
      simp [noSmall]
  | some capital =>
      have nonempty := List.length_pos_of_mem (List.mem_of_getLast? last)
      have ends := List.dropLast_append_getLast? capital last
      have parts : first :: rest =
          (first :: (rest.takeWhile isUppercase).dropLast) ++
            (capital :: rest.dropWhile isUppercase) := by
        rw [List.cons_append, ← List.singleton_append (x := capital),
          ← List.append_assoc, ends, whole]
      have count : (first :: (rest.takeWhile isUppercase).dropLast).length =
          (rest.takeWhile isUppercase).length := by
        rw [List.length_cons, List.length_dropLast]
        omega
      have taken : (first :: rest).take (rest.takeWhile isUppercase).length =
          first :: (rest.takeWhile isUppercase).dropLast := by
        rw [parts, ← count, List.take_left]
      have left : (first :: rest).drop (rest.takeWhile isUppercase).length =
          capital :: rest.dropWhile isUppercase := by
        rw [parts, ← count, List.drop_left]
      by_cases followed :
          ((rest.dropWhile isUppercase).head?.map isLowercase).getD false
      · simp [followed, nonempty, taken, left]
      · simp [followed]

theorem word_of_upper {first : Char}
    (known : characterClass? first = some .upper) (rest : List Char) :
    word (first :: rest) = some (firstWord first rest) := by
  have upper : isUppercase first = true := characterClass?_eq_some_iff.mp known
  by_cases small : (rest.head?.map isLowercase).getD false = true
  · cases rest with
    | nil => simp at small
    | cons second rest =>
      have lower : isLowercase second = true := by simpa using small
      have isSmall : characterClass? second = some .lower :=
        characterClass?_eq_some_iff.mpr lower
      rw [firstWord_of_upper_of_lower known isSmall]
      simp [word, capitalized, upper, run_cons_of_pos lower]
  · have noSmall := Bool.not_eq_true _ ▸ small
    have notCapitalized : capitalized (first :: rest) = none := by
      cases rest with
      | nil => simp [capitalized, run]
      | cons second rest =>
        simp at small
        simp [capitalized, run, small]
    simp [word, notCapitalized, acronym_of_upper known noSmall]

/-- The alternatives together read the first word. -/
theorem word_cons {first : Char} (letter : isAlphanumeric first = true)
    (rest : List Char) :
    word (first :: rest) = some (firstWord first rest) := by
  obtain ⟨kind, known⟩ := Option.isSome_iff_exists.mp
    ((isSome_characterClass?_iff first).mpr letter)
  by_cases capital : kind = .upper
  · subst capital
    exact word_of_upper known rest
  · exact word_of_ne_upper known capital rest

theorem skip_separator_cons (first : Char) (rest : List Char) :
    skip separator (first :: rest) =
      if isAlphanumeric first then first :: rest else skip separator rest := by
  simp only [separator, skip_run, List.dropWhile_cons]
  by_cases letter : isAlphanumeric first = true
  · simp [letter]
  · simp [letter]

theorem length_skip_separator_le (text : List Char) :
    (skip separator text).length ≤ text.length := by
  rw [separator, skip_run]
  exact (List.dropWhile_sublist _).length_le

/-- Each round takes one word, and after the last one nothing is left. -/
theorem words_eq_splitWords (text : List Char) :
    words text = some (splitWords text, []) := by
  unfold words
  fun_induction splitWords text with
  | case1 =>
      have noWord : terminatedWord [] = none := rfl
      rw [show skip separator [] = [] from rfl, many, noWord]
  | case2 first rest letter ih =>
      have shorter : (skip separator (firstWord first rest).2).length <
          (first :: rest).length :=
        Nat.lt_succ_of_le (Nat.le_trans (length_skip_separator_le _)
          (length_firstWord_snd_le first rest))
      have round : terminatedWord (first :: rest) =
          some ((firstWord first rest).1,
            skip separator (firstWord first rest).2) := by
        rw [terminatedWord, word_cons letter]
        rfl
      rw [skip_separator_cons, if_pos letter, many, round]
      simp only [if_pos shorter, ih, Option.map_some]
  | case3 first rest separator ih =>
      rw [skip_separator_cons, if_neg separator, ih]

end Grammar

/-- The classes of characters do not overlap. A label is cut into pieces that
are not empty, and its words are the pieces without separators. The parser reads
the whole label and finds them too, and no letter or number is lost. -/
theorem words_eq_filter_cuts (label : String) :
    (∀ character kind, characterClass? character = some kind ↔
      CharacterClass.holds kind character = true) ∧
      (cuts label.toList).flatten = label.toList ∧
      (∀ piece ∈ cuts label.toList, piece ≠ []) ∧
      words label = (cuts label.toList).filter (·.all isAlphanumeric) ∧
      Grammar.parse? label.toList = some (words label) ∧
      (words label).flatten = label.toList.filter isAlphanumeric := by
  refine ⟨?_, flatten_cuts _, ?_, splitWords_eq_filter_cuts _, ?_,
    flatten_splitWords _⟩
  · exact fun character kind => characterClass?_eq_some_iff
  · exact fun piece => ne_nil_of_mem_cuts
  · rw [Grammar.parse?, Grammar.words_eq_splitWords]
    rfl

example : words "HTTPServer v2-order" =
    ["HTTP".toList, "Server".toList, "v".toList, "2".toList, "order".toList] :=
  by decide +kernel

end AggregateRules.Label
