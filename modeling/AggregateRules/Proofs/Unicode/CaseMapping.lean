import AggregateRules.Proofs.Unicode.Runs
import AggregateRules.Unicode.Casing
import AggregateRules.Unicode.Identifier
import Mathlib.Data.List.Sort

/-!
# Characters under a change of case

What the case mappings make of a character continues an identifier if and only
if the character itself does, see `forall_mem_mapCase_iff`. No letter and no
number becomes a character that has a meaning in code. Both are read off the
tables: a mapping is taken as the runs that it maps from and the runs that it
maps to.
-/

namespace AggregateRules.Unicode

/-- The code points that a shift moves its run to. -/
def Shift.image (shift : Shift) : Run :=
  ⟨shift.target, shift.target + (shift.last - shift.first), shift.stride⟩

theorem Shift.contains_image {shift : Shift} {point : Nat}
    (contained : shift.contains point = true) :
    shift.image.contains (shift.target + (point - shift.first)) = true := by
  unfold Shift.image
  simp only [Run.contains, Bool.and_eq_true, decide_eq_true_eq, beq_iff_eq,
    Nat.add_sub_cancel_left] at contained ⊢
  obtain ⟨⟨lower, upper⟩, aligned⟩ := contained
  exact ⟨⟨by omega, by omega⟩, aligned⟩

def Run.single (point : Nat) : Run :=
  ⟨point, point, 1⟩

@[simp] theorem Run.contains_single (point : Nat) :
    (Run.single point).contains point = true := by
  simp [Run.contains, Run.single]

/-- The runs of a list in ascending order. -/
def ascending (runs : List Run) : List Run :=
  runs.insertionSort fun left right => left.first ≤ right.first

theorem InTable.ascending {runs : List Run} {point : Nat}
    (inside : InTable runs point) : InTable (ascending runs) point := by
  obtain ⟨run, isRun, contained⟩ := inside
  exact ⟨run, (List.mem_insertionSort _).mpr isRun, contained⟩

/-- A mapping moves a character, replaces it by several ones, or keeps it. -/
theorem mapCase_cases (shifts : List Shift)
    (expansions : List (Nat × List Nat)) (character : Char) :
    (∃ shift ∈ shifts, shift.contains character.toNat = true ∧
      mapCase shifts expansions character =
        [Char.ofNat (shift.target + (character.toNat - shift.first))]) ∨
    (∃ entry ∈ expansions, entry.1 = character.toNat ∧
      mapCase shifts expansions character = entry.2.map Char.ofNat) ∨
    mapCase shifts expansions character = [character] := by
  unfold mapCase shifted?
  cases found : shifts.find? fun shift => shift.contains character.toNat with
  | some shift =>
      refine .inl ⟨shift, List.mem_of_find?_eq_some found, ?_, rfl⟩
      exact List.find?_some (p := fun shift : Shift =>
        shift.contains character.toNat) found
  | none =>
      cases listed : expansions.lookup character.toNat with
      | some points =>
          obtain ⟨before, after, split, -⟩ :=
            List.lookup_eq_some_iff.mp listed
          refine .inr (.inl ⟨(character.toNat, points), ?_, rfl, rfl⟩)
          simp [split]
      | none => exact .inr (.inr rfl)

/-- The characters of ASCII that words of code consist of, and all characters
behind ASCII. -/
def wordRuns : List Run :=
  [ ⟨0x30, 0x39, 1⟩, ⟨0x41, 0x5a, 1⟩, ⟨0x5f, 0x5f, 1⟩, ⟨0x61, 0x7a, 1⟩,
    ⟨0x80, 0xd7ff, 1⟩, ⟨0xe000, 0x10ffff, 1⟩ ]

/-- Whether a character has no meaning in code. -/
def isWordCharacter (character : Char) : Bool :=
  hasRun wordRuns character

theorem toNat_ofNat_of_word {point : Nat} (inside : InTable wordRuns point) :
    (Char.ofNat point).toNat = point := by
  have valid : point.isValidChar := by
    obtain ⟨run, isRun, contained⟩ := inside
    simp only [Run.contains, Bool.and_eq_true, decide_eq_true_eq] at contained
    simp only [wordRuns, List.mem_cons, List.not_mem_nil, or_false] at isRun
    rcases isRun with rfl | rfl | rfl | rfl | rfl | rfl <;>
      simp only [Nat.isValidChar] at contained ⊢ <;> omega
  rw [Char.ofNat, dif_pos valid]
  rfl

theorem isWordCharacter_of_isAlphanumeric {character : Char}
    (alphanumeric : isAlphanumeric character = true) :
    isWordCharacter character = true := by
  have letters : covers wordRuns alphabeticRuns = true := by decide +kernel
  have numbers : covers wordRuns numericRuns = true := by decide +kernel
  rw [isAlphanumeric, Bool.or_eq_true] at alphanumeric
  cases alphanumeric with
  | inl letter =>
      exact hasRun_iff.mpr (.of_covers letters (hasRun_iff.mp letter))
  | inr number =>
      exact hasRun_iff.mpr (.of_covers numbers (hasRun_iff.mp number))

/-- Whether a shift stays within a run that has no gaps. -/
def Shift.staysIn (shift : Shift) (run : Run) : Bool :=
  run.holds ⟨shift.first, shift.last⟩ &&
    run.holds ⟨shift.target, shift.target + (shift.last - shift.first)⟩

/-- The shifts that do not stay within a run. -/
def leaving (run : Run) (shifts : List Shift) : List Shift :=
  shifts.filter fun shift => !shift.staysIn run

/-- A mapping that leads neither into a table of word characters nor out of it.
Shifts may also stay within one run outside the table. -/
structure KeepsTable (table : List Run) (outside : Run) (shifts : List Shift)
    (expansions : List (Nat × List Nat)) : Prop where
  wordTable : covers wordRuns table = true
  wordOutside : covers wordRuns [outside] = true
  apart : avoids table outside = true
  shifted : covers table ((leaving outside shifts).map Shift.toRun) = true
  images :
    covers table (ascending ((leaving outside shifts).map Shift.image)) = true
  expanded :
    covers table (expansions.map fun entry => .single entry.1) = true
  points :
    covers table
      (ascending (expansions.flatMap fun entry => entry.2.map .single)) = true

namespace KeepsTable

variable {table : List Run} {outside : Run} {shifts : List Shift}
  {expansions : List (Nat × List Nat)}
  (keeps : KeepsTable table outside shifts expansions)

include keeps

/-- A shift moves a code point of the table within the table, or one that stands
outside within the run outside. -/
theorem shift_cases {shift : Shift} (member : shift ∈ shifts)
    {point : Nat} (contained : shift.contains point = true) :
    InTable table point ∧
        InTable table (shift.target + (point - shift.first)) ∨
      outside.contains point = true ∧
        outside.contains (shift.target + (point - shift.first)) = true := by
  by_cases stays : shift.staysIn outside = true
  · obtain ⟨source, image⟩ := (Bool.and_eq_true _ _).mp stays
    have bounds := contained
    simp only [Run.contains, Bool.and_eq_true, decide_eq_true_eq] at bounds
    refine .inr ⟨Run.contains_of_holds source bounds.1, ?_⟩
    apply Run.contains_of_holds image
    simp only [Span.contains]
    omega
  · have leaves : shift ∈ leaving outside shifts := by
      simp [leaving, member, stays]
    have source : InTable ((leaving outside shifts).map Shift.toRun) point :=
      ⟨shift.toRun, List.mem_map_of_mem leaves, contained⟩
    have image : InTable ((leaving outside shifts).map Shift.image)
        (shift.target + (point - shift.first)) :=
      ⟨shift.image, List.mem_map_of_mem leaves, Shift.contains_image contained⟩
    exact .inl ⟨.of_covers keeps.shifted source,
      .of_covers keeps.images image.ascending⟩

theorem inTable_of_expanded {entry : Nat × List Nat}
    (member : entry ∈ expansions) : InTable table entry.1 := by
  refine .of_covers keeps.expanded ⟨.single entry.1, ?_, Run.contains_single _⟩
  exact List.mem_map_of_mem (f := fun entry => Run.single entry.1) member

theorem inTable_of_point {entry : Nat × List Nat} (member : entry ∈ expansions)
    {point : Nat} (isPoint : point ∈ entry.2) : InTable table point := by
  have inPoints : InTable
      (expansions.flatMap fun entry => entry.2.map Run.single) point :=
    ⟨.single point,
      List.mem_flatMap.mpr ⟨entry, member, List.mem_map_of_mem isPoint⟩,
      Run.contains_single point⟩
  exact .of_covers keeps.points inPoints.ascending

theorem word_of_inTable {point : Nat} (inside : InTable table point) :
    InTable wordRuns point :=
  .of_covers keeps.wordTable inside

theorem word_of_outside {point : Nat} (inside : outside.contains point = true) :
    InTable wordRuns point :=
  .of_covers keeps.wordOutside ⟨outside, List.mem_singleton_self _, inside⟩

theorem word_of_shift {shift : Shift} (member : shift ∈ shifts)
    {point : Nat} (contained : shift.contains point = true) :
    InTable wordRuns (shift.target + (point - shift.first)) := by
  cases keeps.shift_cases member contained with
  | inl both => exact keeps.word_of_inTable both.2
  | inr both => exact keeps.word_of_outside both.2

theorem isWordCharacter_of_mem {character mapped : Char}
    (word : isWordCharacter character = true)
    (member : mapped ∈ mapCase shifts expansions character) :
    isWordCharacter mapped = true := by
  have ofPoint {point : Nat} (isWord : InTable wordRuns point) :
      isWordCharacter (Char.ofNat point) = true := by
    rw [isWordCharacter, hasRun_iff, toNat_ofNat_of_word isWord]
    exact isWord
  obtain ⟨shift, isShift, contained, moved⟩ | ⟨entry, isEntry, -, replaced⟩ |
    kept := mapCase_cases shifts expansions character
  · rw [moved, List.mem_singleton] at member
    rw [member]
    exact ofPoint (keeps.word_of_shift isShift contained)
  · rw [replaced] at member
    obtain ⟨point, isPoint, rfl⟩ := List.mem_map.mp member
    have inside := keeps.inTable_of_point isEntry isPoint
    exact ofPoint (keeps.word_of_inTable inside)
  · rw [kept, List.mem_singleton] at member
    rw [member]
    exact word

/-- A character is in the table if and only if all characters are in it that
the mapping gives for it. -/
theorem forall_hasRun_iff (character : Char) :
    (∀ mapped ∈ mapCase shifts expansions character,
      hasRun table mapped = true) ↔ hasRun table character = true := by
  obtain ⟨shift, isShift, contained, moved⟩ |
    ⟨entry, isEntry, isSource, replaced⟩ | kept :=
      mapCase_cases shifts expansions character
  · rw [moved, List.forall_mem_singleton, hasRun_iff, hasRun_iff,
      toNat_ofNat_of_word (keeps.word_of_shift isShift contained)]
    cases keeps.shift_cases isShift contained with
    | inl both => exact iff_of_true both.2 both.1
    | inr both =>
        exact iff_of_false (notMem_of_avoids keeps.apart both.2)
          (notMem_of_avoids keeps.apart both.1)
  · refine iff_of_true ?_ ?_
    · rw [replaced]
      refine List.forall_mem_map.mpr fun point isPoint => ?_
      have inside := keeps.inTable_of_point isEntry isPoint
      rw [hasRun_iff, toNat_ofNat_of_word (keeps.word_of_inTable inside)]
      exact inside
    · rw [hasRun_iff, ← isSource]
      exact keeps.inTable_of_expanded isEntry
  · rw [kept, List.forall_mem_singleton]

end KeepsTable

/-- The letters in circles, which have cases but are symbols. -/
def circledLetters : Run :=
  ⟨0x24b6, 0x24e9, 1⟩

theorem keepsTable_uppercase :
    KeepsTable identifierContinueRuns circledLetters uppercaseShifts
      uppercaseExpansions := by
  constructor <;> decide +kernel

theorem keepsTable_lowercase :
    KeepsTable identifierContinueRuns circledLetters lowercaseShifts
      lowercaseExpansions := by
  constructor <;> decide +kernel

theorem isWordCharacter_of_mem_toUppercase {character mapped : Char}
    (word : isWordCharacter character = true)
    (member : mapped ∈ toUppercase character) :
    isWordCharacter mapped = true :=
  keepsTable_uppercase.isWordCharacter_of_mem word member

theorem isWordCharacter_of_mem_toLowercase {character mapped : Char}
    (word : isWordCharacter character = true)
    (member : mapped ∈ toLowercase character) :
    isWordCharacter mapped = true :=
  keepsTable_lowercase.isWordCharacter_of_mem word member

theorem continuesIdentifier_iff_of_word {character : Char}
    (word : isWordCharacter character = true) :
    continuesIdentifier character = true ↔
      hasRun identifierContinueRuns character = true := by
  have notDollar : character ≠ '$' := by
    rintro rfl
    exact absurd word (by decide)
  simp [continuesIdentifier, notDollar]

theorem forall_mem_mapCase_iff {shifts : List Shift}
    {expansions : List (Nat × List Nat)}
    (keeps : KeepsTable identifierContinueRuns circledLetters shifts expansions)
    {character : Char} (word : isWordCharacter character = true) :
    (∀ mapped ∈ mapCase shifts expansions character,
      continuesIdentifier mapped = true) ↔
      continuesIdentifier character = true := by
  rw [continuesIdentifier_iff_of_word word, ← keeps.forall_hasRun_iff]
  refine forall₂_congr fun mapped member => ?_
  exact continuesIdentifier_iff_of_word
    (keeps.isWordCharacter_of_mem word member)

theorem continuesIdentifier_of_startsIdentifier {character : Char}
    (starts : startsIdentifier character = true) :
    continuesIdentifier character = true := by
  have within : covers identifierContinueRuns identifierStartRuns = true := by
    decide +kernel
  simp only [startsIdentifier, continuesIdentifier, Bool.or_eq_true,
    beq_iff_eq] at starts ⊢
  obtain (dollar | underscore) | letter := starts
  · exact .inl dollar
  · rw [underscore]
    exact .inr (by decide)
  · exact .inr (hasRun_iff.mpr (.of_covers within (hasRun_iff.mp letter)))

end AggregateRules.Unicode
