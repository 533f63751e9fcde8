import Mathlib.Data.List.Basic
import AggregateRules.Label.Word
import AggregateRules.Proofs.Unicode.Runs

/-!
# Characters and words

Each letter and each number has one class, and it does not matter in which order
the classes are looked at, see `characterClass?_eq_some_iff`. Splitting a text
into words loses its separators and nothing else, see `flatten_splitWords`.
-/

namespace AggregateRules.Label

open Unicode

/-- The ASCII digits. -/
def digitRuns : List Run :=
  [⟨0x30, 0x39, 1⟩]

theorem inTable_of_isDigit {character : Char}
    (digit : character.isDigit = true) :
    InTable digitRuns character.toNat := by
  simp only [Char.isDigit, Bool.and_eq_true, decide_eq_true_eq, ge_iff_le,
    UInt32.le_iff_toNat_le] at digit
  change 0x30 ≤ character.toNat ∧ character.toNat ≤ 0x39 at digit
  refine ⟨_, List.mem_singleton_self _, ?_⟩
  simp [Run.contains, digit.1, digit.2, Nat.mod_one]

/-- Letters with case are letters, and digits are numbers. -/
theorem covers_caseRuns :
    covers alphabeticRuns uppercaseRuns = true ∧
      covers alphabeticRuns lowercaseRuns = true ∧
      covers numericRuns digitRuns = true := by
  decide +kernel

/-- Capitals, small letters and digits are different characters. -/
theorem disjoint_caseRuns :
    (ascends digitRuns = true ∧ ascends uppercaseRuns = true ∧
        ascends lowercaseRuns = true) ∧
      disjoint digitRuns uppercaseRuns = true ∧
      disjoint digitRuns lowercaseRuns = true ∧
      disjoint uppercaseRuns lowercaseRuns = true := by
  decide +kernel

/-- The characters with a class are the letters and the numbers. -/
theorem isSome_characterClass?_iff (character : Char) :
    (characterClass? character).isSome = true ↔
      isAlphanumeric character = true := by
  obtain ⟨capitals, smalls, digits⟩ := covers_caseRuns
  have ofLetter (letter : hasRun alphabeticRuns character = true) :
      isAlphanumeric character = true := by
    simp [isAlphanumeric, isAlphabetic, letter]
  unfold characterClass?
  split
  · next upper =>
      refine iff_of_true rfl (ofLetter (hasRun_iff.mpr ?_))
      exact .of_covers capitals (hasRun_iff.mp upper)
  · split
    · next lower =>
        refine iff_of_true rfl (ofLetter (hasRun_iff.mpr ?_))
        exact .of_covers smalls (hasRun_iff.mp lower)
    · split
      · next digit =>
          have number :=
            hasRun_iff.mpr (.of_covers digits (inTable_of_isDigit digit))
          exact iff_of_true rfl (by simp [isAlphanumeric, number])
      · split
        · next other => exact iff_of_true rfl other
        · next separator => exact iff_of_false (by simp) separator

theorem isAlphanumeric_of_isLowercase {character : Char}
    (lower : isLowercase character = true) :
    isAlphanumeric character = true := by
  rw [← isSome_characterClass?_iff, characterClass?]
  split <;> rfl

theorem not_isLowercase_of_isUppercase {character : Char}
    (upper : isUppercase character = true) :
    isLowercase character = false := by
  obtain ⟨⟨-, capitals, smalls⟩, -, -, apart⟩ := disjoint_caseRuns
  rw [Bool.eq_false_iff]
  intro lower
  exact notMem_of_disjoint capitals smalls apart (hasRun_iff.mp upper)
    (hasRun_iff.mp lower)

/-- Digits have no case. -/
theorem uncased_of_isDigit {character : Char}
    (digit : character.isDigit = true) :
    isUppercase character = false ∧ isLowercase character = false := by
  have isListed := inTable_of_isDigit digit
  obtain ⟨⟨digits, capitals, smalls⟩, fromCapitals, fromSmalls, -⟩ :=
    disjoint_caseRuns
  constructor
  · rw [Bool.eq_false_iff]
    intro upper
    exact notMem_of_disjoint digits capitals fromCapitals isListed
      (hasRun_iff.mp upper)
  · rw [Bool.eq_false_iff]
    intro lower
    exact notMem_of_disjoint digits smalls fromSmalls isListed
      (hasRun_iff.mp lower)

/-- Whether a character belongs to a class, told without regard to the order of
the classes. -/
def CharacterClass.holds (kind : CharacterClass) (character : Char) : Bool :=
  match kind with
  | .upper => isUppercase character
  | .lower => isLowercase character
  | .digit => character.isDigit
  | .other =>
      isAlphanumeric character && !isUppercase character &&
        !isLowercase character && !character.isDigit

/-- No character belongs to two classes. -/
theorem characterClass?_eq_some_iff {character : Char}
    {kind : CharacterClass} :
    characterClass? character = some kind ↔ kind.holds character = true := by
  have notLower : isUppercase character = true →
      isLowercase character = false := not_isLowercase_of_isUppercase
  have uncased : character.isDigit = true →
      isUppercase character = false ∧ isLowercase character = false :=
    uncased_of_isDigit
  have notDigit (cased : isUppercase character = true ∨
      isLowercase character = true) : character.isDigit = false := by
    rw [Bool.eq_false_iff]
    intro digit
    obtain ⟨noUpper, noLower⟩ := uncased digit
    simp [noUpper, noLower] at cased
  unfold characterClass?
  split
  · next upper =>
      cases kind <;> simp [CharacterClass.holds, upper, notLower upper,
        notDigit (.inl upper)]
  · next notUpper =>
      split
      · next lower =>
          cases kind <;> simp [CharacterClass.holds, notUpper, lower,
            notDigit (.inr lower)]
      · next notSmall =>
          split
          · next digit =>
              cases kind <;> simp [CharacterClass.holds, notUpper, notSmall,
                digit]
          · next noDigit =>
              split
              · next other =>
                  cases kind <;> simp [CharacterClass.holds, notUpper, notSmall,
                    noDigit, other]
              · next separator =>
                  cases kind <;> simp [CharacterClass.holds, notUpper, notSmall,
                    noDigit, separator]

/-- A text consists of its first word and of what stands behind it. -/
theorem firstWord_append (first : Char) (rest : List Char) :
    (firstWord first rest).1 ++ (firstWord first rest).2 = first :: rest := by
  have parts := List.takeWhile_append_dropWhile (l := rest)
    (p := fun character =>
      characterClass? character == characterClass? first)
  unfold firstWord
  dsimp only
  split
  · split
    · next noRun =>
        rw [List.getLast?_eq_none_iff] at noRun
        rw [noRun, List.nil_append] at parts
        rw [List.cons_append, List.takeWhile_append_dropWhile, parts]
    · next capital last =>
        have ends := List.dropLast_append_getLast? capital last
        rw [List.cons_append, ← List.singleton_append (x := capital),
          ← List.append_assoc, ends, parts]
  · rw [List.cons_append, parts]

theorem firstWord_fst_ne_nil (first : Char) (rest : List Char) :
    (firstWord first rest).1 ≠ [] := by
  unfold firstWord
  dsimp only
  split
  · split
    · exact List.cons_ne_nil first _
    · exact List.cons_ne_nil first _
  · exact List.cons_ne_nil first _

/-- The first word has characters of the class of its first one only, and small
letters if that is a capital. -/
theorem forall_mem_firstWord {first : Char} {property : Char → Prop}
    (alike : ∀ character,
      characterClass? character = characterClass? first → property character)
    (small : characterClass? first = some .upper →
      ∀ character, isLowercase character = true → property character)
    (rest : List Char) :
    ∀ character ∈ (firstWord first rest).1, property character := by
  have ofFirst : property first := alike first rfl
  have ofRun : ∀ character ∈ rest.takeWhile (fun character =>
      characterClass? character == characterClass? first),
      property character := by
    intro character member
    have same := List.all_eq_true.mp List.all_takeWhile character member
    exact alike character (eq_of_beq same)
  unfold firstWord
  dsimp only
  split
  · next both =>
      split
      · refine List.forall_mem_cons.mpr ⟨ofFirst, fun character member => ?_⟩
        exact small both.1 character
          (List.all_eq_true.mp List.all_takeWhile character member)
      · refine List.forall_mem_cons.mpr ⟨ofFirst, fun character member => ?_⟩
        exact ofRun character (List.dropLast_subset _ member)
  · exact List.forall_mem_cons.mpr ⟨ofFirst, ofRun⟩

/-- The first word has no separators. -/
theorem isAlphanumeric_of_mem_firstWord {first : Char}
    (letter : isAlphanumeric first = true) (rest : List Char) :
    ∀ character ∈ (firstWord first rest).1,
      isAlphanumeric character = true := by
  apply forall_mem_firstWord
  · intro character alike
    rw [← isSome_characterClass?_iff, alike, isSome_characterClass?_iff]
    exact letter
  · intro _ character small
    exact isAlphanumeric_of_isLowercase small

/-- The first word is a number in ASCII digits, or it has no such digit. -/
theorem isDigit_of_mem_firstWord (first : Char) (rest : List Char) :
    ∀ character ∈ (firstWord first rest).1,
      character.isDigit = first.isDigit := by
  have isDigit_iff (character : Char) : character.isDigit = true ↔
      characterClass? character = some .digit := by
    rw [characterClass?_eq_some_iff]
    rfl
  apply forall_mem_firstWord
  · intro character alike
    rw [Bool.eq_iff_iff, isDigit_iff, isDigit_iff, alike]
  · intro capital character small
    have noDigit : character.isDigit = false := by
      rw [Bool.eq_false_iff]
      intro digit
      exact Bool.false_ne_true ((uncased_of_isDigit digit).2.symm.trans small)
    have firstNoDigit : first.isDigit = false := by
      rw [Bool.eq_false_iff, ne_eq, isDigit_iff, capital]
      simp
    rw [noDigit, firstNoDigit]

/-- Each word of a text was once the first word of what was left. -/
theorem forall_mem_splitWords {property : List Char → Prop}
    (first : ∀ character rest, isAlphanumeric character = true →
      property (firstWord character rest).1) (text : List Char) :
    ∀ word ∈ splitWords text, property word := by
  fun_induction splitWords text with
  | case1 => simp
  | case2 character rest letter ih =>
      rw [List.forall_mem_cons]
      exact ⟨first character rest letter, ih⟩
  | case3 character rest separator ih => exact ih

/-- The words of a text in a row are the text without its separators. -/
theorem flatten_splitWords (text : List Char) :
    (splitWords text).flatten = text.filter isAlphanumeric := by
  fun_induction splitWords text with
  | case1 => rfl
  | case2 character rest letter ih =>
      have word := isAlphanumeric_of_mem_firstWord letter rest
      rw [List.flatten_cons, ih, ← firstWord_append character rest,
        List.filter_append, List.filter_eq_self.mpr word]
  | case3 character rest separator ih =>
      rw [ih, List.filter_cons_of_neg separator]

end AggregateRules.Label
