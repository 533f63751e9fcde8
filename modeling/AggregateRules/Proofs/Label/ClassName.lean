import AggregateRules.Label.ClassName
import AggregateRules.Proofs.Label.Word
import AggregateRules.Proofs.Unicode.CaseMapping

/-!
# Characters of class names

Splitting a label into words loses its separators and nothing else, see
`flatten_splitWords`. So the characters of a class name come from the letters
and numbers of the label by change of case, and whether the class name is an
identifier can be seen from the label.
-/

namespace AggregateRules.Label

open Unicode

theorem isAlphanumeric_of_mem_words {label : String} {word : List Char}
    (isWord : word ∈ words label) {character : Char}
    (member : character ∈ word) : isAlphanumeric character = true := by
  have inLabel : character ∈ label.toList.filter isAlphanumeric := by
    rw [← flatten_splitWords]
    exact List.mem_flatten.mpr ⟨word, isWord, member⟩
  exact (List.mem_filter.mp inLabel).2

theorem mem_toList_className {label : String} {character : Char} :
    character ∈ (className label).toList ↔
      ∃ word ∈ words label, character ∈ capitalize word := by
  rw [className, String.toList_ofList, List.mem_flatMap]

/-- A class name has no character with a meaning in code. -/
theorem isWordCharacter_of_mem_className {label : String} {character : Char}
    (member : character ∈ (className label).toList) :
    isWordCharacter character = true := by
  obtain ⟨word, isWord, inName⟩ := mem_toList_className.mp member
  have plain : ∀ letter ∈ word, isWordCharacter letter = true :=
    fun letter inWord => isWordCharacter_of_isAlphanumeric
      (isAlphanumeric_of_mem_words isWord inWord)
  cases word with
  | nil => simp [capitalize] at inName
  | cons first rest =>
      obtain ⟨plainFirst, plainRest⟩ := List.forall_mem_cons.mp plain
      rw [capitalize, List.mem_append, List.mem_flatMap] at inName
      obtain upper | ⟨letter, inRest, lower⟩ := inName
      · exact isWordCharacter_of_mem_toUppercase plainFirst upper
      · exact isWordCharacter_of_mem_toLowercase (plainRest letter inRest) lower

/-- Whether the characters of a capitalized word continue an identifier, does
not depend on the change of case. -/
theorem forall_mem_capitalize_iff {word : List Char}
    (plain : ∀ character ∈ word, isWordCharacter character = true) :
    (∀ character ∈ capitalize word, continuesIdentifier character = true) ↔
      ∀ character ∈ word, continuesIdentifier character = true := by
  cases word with
  | nil => rfl
  | cons first rest =>
      obtain ⟨plainFirst, plainRest⟩ := List.forall_mem_cons.mp plain
      have ofFirst := forall_mem_mapCase_iff keepsTable_uppercase plainFirst
      have ofRest :
          (∀ character ∈ rest.flatMap toLowercase,
            continuesIdentifier character = true) ↔
            ∀ character ∈ rest, continuesIdentifier character = true := by
        rw [List.forall_mem_flatMap]
        refine forall₂_congr fun character member => ?_
        exact forall_mem_mapCase_iff keepsTable_lowercase
          (plainRest character member)
      rw [capitalize, List.forall_mem_append, List.forall_mem_cons]
      exact and_congr ofFirst ofRest

theorem forall_mem_className_iff (label : String) :
    (∀ character ∈ (className label).toList,
      continuesIdentifier character = true) ↔
      ∀ character ∈ label.toList, isAlphanumeric character = true →
        continuesIdentifier character = true := by
  have plain : ∀ word ∈ words label, ∀ character ∈ word,
      isWordCharacter character = true := fun word isWord character member =>
    isWordCharacter_of_isAlphanumeric
      (isAlphanumeric_of_mem_words isWord member)
  calc (∀ character ∈ (className label).toList,
          continuesIdentifier character = true)
      ↔ ∀ word ∈ words label, ∀ character ∈ capitalize word,
          continuesIdentifier character = true := by
        rw [className, String.toList_ofList, List.forall_mem_flatMap]
    _ ↔ ∀ word ∈ words label, ∀ character ∈ word,
          continuesIdentifier character = true :=
        forall₂_congr fun word isWord =>
          forall_mem_capitalize_iff (plain word isWord)
    _ ↔ ∀ character ∈ label.toList.filter isAlphanumeric,
          continuesIdentifier character = true := by
        rw [← flatten_splitWords, List.forall_mem_flatten]
        rfl
    _ ↔ ∀ character ∈ label.toList, isAlphanumeric character = true →
          continuesIdentifier character = true := by
        simp only [List.mem_filter, and_imp]

/-- A label whose class name is an identifier: the class name starts like one,
and no letter or number of the label is one that identifiers cannot have, such
as a superscript digit or a letter in a circle. -/
def SpellsIdentifier (label : String) : Prop :=
  (∃ first ∈ (className label).toList.head?, startsIdentifier first = true) ∧
    ∀ character ∈ label.toList, isAlphanumeric character = true →
      continuesIdentifier character = true

theorem isIdentifierName_className_iff (label : String) :
    isIdentifierName (className label) = true ↔ SpellsIdentifier label := by
  rw [SpellsIdentifier, ← forall_mem_className_iff, isIdentifierName]
  cases (className label).toList with
  | nil => simp
  | cons first rest =>
      simp only [List.head?_cons, Option.mem_some_iff, exists_eq_left',
        Bool.and_eq_true, List.all_eq_true, List.forall_mem_cons]
      constructor
      · rintro ⟨starts, continued⟩
        exact ⟨starts, continuesIdentifier_of_startsIdentifier starts,
          continued⟩
      · rintro ⟨starts, -, continued⟩
        exact ⟨starts, continued⟩

end AggregateRules.Label
