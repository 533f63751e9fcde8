import Mathlib
import AggregateRules.Unicode.Casing

/-!
# Characters of ASCII

On ASCII the tables of Unicode say what the functions of `Char` say, which know
no other characters: which letters are capitals, which are small, and how one
becomes the other. So a change of case is one of single characters there.
-/

namespace AggregateRules.Unicode

def isAscii (character : Char) : Bool :=
  character.toNat.blt 0x80

/-- A run that starts behind ASCII holds no character of ASCII. -/
theorem Run.not_contains_of_isAscii {run : Run} {character : Char}
    (ascii : isAscii character = true)
    (behind : Nat.ble 0x80 run.first = true) :
    run.contains character.toNat = false := by
  rw [Bool.eq_false_iff]
  intro contained
  simp only [Run.contains, Bool.and_eq_true, decide_eq_true_eq] at contained
  simp only [isAscii, Nat.blt_eq, Nat.ble_eq] at ascii behind
  omega

/-- Only the first runs of a table matter if all others lie behind ASCII. -/
theorem hasRun_of_isAscii {table : List Run} {character : Char}
    (ascii : isAscii character = true) (count : Nat)
    (behind : ((table.drop count).all fun run => Nat.ble 0x80 run.first) =
      true) :
    hasRun table character = hasRun (table.take count) character := by
  have none : hasRun (table.drop count) character = false := by
    apply List.any_eq_false.mpr
    intro run member
    rw [Run.not_contains_of_isAscii ascii
      (List.all_eq_true.mp behind run member)]
    exact Bool.false_ne_true
  calc hasRun table character
      = hasRun (table.take count ++ table.drop count) character := by
        rw [List.take_append_drop]
    _ = (hasRun (table.take count) character ||
          hasRun (table.drop count) character) := List.any_append
    _ = hasRun (table.take count) character := by
        rw [none, Bool.or_false]

theorem mapCase_of_isAscii {shifts : List Shift}
    {expansions : List (Nat × List Nat)} {character : Char}
    (ascii : isAscii character = true) (count : Nat)
    (behind : ((shifts.drop count).all fun shift =>
      Nat.ble 0x80 shift.first) = true)
    (expandedBehind : (expansions.all fun entry => Nat.ble 0x80 entry.1) =
      true) :
    mapCase shifts expansions character =
      mapCase (shifts.take count) [] character := by
  have notExpanded : expansions.lookup character.toNat = none := by
    rw [List.lookup_eq_none_iff]
    intro entry member
    have outside := List.all_eq_true.mp expandedBehind entry member
    simp only [isAscii, Nat.blt_eq, Nat.ble_eq] at ascii outside
    rw [bne_iff_ne]
    omega
  have notShifted : (shifts.drop count).find?
      (fun shift => shift.contains character.toNat) = none := by
    rw [List.find?_eq_none]
    intro shift member
    rw [Run.not_contains_of_isAscii ascii
      (List.all_eq_true.mp behind shift member)]
    exact Bool.false_ne_true
  have sameShift : shifted? shifts character.toNat =
      shifted? (shifts.take count) character.toNat := by
    rw [shifted?, shifted?]
    conv_lhs => rw [← List.take_append_drop count shifts]
    rw [List.find?_append, notShifted, Option.or_none]
  rw [mapCase, mapCase, sameShift, notExpanded]
  rfl

/-- What the tables say about a character is what `Char` says about it. -/
structure AgreesWithTables (character : Char) : Prop where
  upper : isUppercase character = character.isUpper
  lower : isLowercase character = character.isLower
  alphanumeric : isAlphanumeric character = character.isAlphanum
  toUpper : toUppercase character = [character.toUpper]
  toLower : toLowercase character = [character.toLower]

theorem agreesWithTables_of_isAscii {character : Char}
    (ascii : isAscii character = true) : AgreesWithTables character := by
  have everywhere : ∀ point < 0x80,
      hasRun [⟨0x41, 0x5a, 1⟩] (Char.ofNat point) =
          (Char.ofNat point).isUpper ∧
        hasRun [⟨0x61, 0x7a, 1⟩] (Char.ofNat point) =
          (Char.ofNat point).isLower ∧
        hasRun [⟨0x41, 0x5a, 1⟩, ⟨0x61, 0x7a, 1⟩] (Char.ofNat point) =
          (Char.ofNat point).isAlpha ∧
        hasRun [⟨0x30, 0x39, 1⟩] (Char.ofNat point) =
          (Char.ofNat point).isDigit ∧
        mapCase [⟨⟨0x61, 0x7a, 1⟩, 0x41⟩] [] (Char.ofNat point) =
          [(Char.ofNat point).toUpper] ∧
        mapCase [⟨⟨0x41, 0x5a, 1⟩, 0x61⟩] [] (Char.ofNat point) =
          [(Char.ofNat point).toLower] := by
    decide +kernel
  have here := everywhere character.toNat (Nat.blt_eq.mp ascii)
  rw [Char.ofNat_toNat] at here
  obtain ⟨upper, lower, letter, digit, raised, lowered⟩ := here
  constructor
  · rw [isUppercase, ← upper]
    exact hasRun_of_isAscii ascii 1 (by decide +kernel)
  · rw [isLowercase, ← lower]
    exact hasRun_of_isAscii ascii 1 (by decide +kernel)
  · rw [isAlphanumeric, isAlphabetic, Char.isAlphanum, ← letter, ← digit]
    exact congrArg₂ _ (hasRun_of_isAscii ascii 2 (by decide +kernel))
      (hasRun_of_isAscii ascii 1 (by decide +kernel))
  · rw [toUppercase, ← raised]
    exact mapCase_of_isAscii ascii 1 (by decide +kernel) (by decide +kernel)
  · rw [toLowercase, ← lowered]
    exact mapCase_of_isAscii ascii 1 (by decide +kernel) (by decide +kernel)

theorem isAlphanum_of_isAlpha {letter : Char}
    (isAlpha : letter.isAlpha = true) : letter.isAlphanum = true := by
  rw [Char.isAlphanum, isAlpha, Bool.true_or]

theorem isAlphanum_of_isDigit {digit : Char}
    (isDigit : digit.isDigit = true) : digit.isAlphanum = true := by
  rw [Char.isAlphanum, isDigit, Bool.or_true]

/-- The letters and digits that `Char` knows are characters of ASCII. -/
theorem isAscii_of_isAlphanum {character : Char}
    (alphanum : character.isAlphanum = true) : isAscii character = true := by
  simp only [Char.isAlphanum, Char.isAlpha, Char.isUpper, Char.isLower,
    Char.isDigit, Bool.or_eq_true, Bool.and_eq_true, decide_eq_true_eq,
    UInt32.le_iff_toNat_le, ge_iff_le] at alphanum
  change ((0x41 ≤ character.toNat ∧ character.toNat ≤ 0x5a) ∨
    0x61 ≤ character.toNat ∧ character.toNat ≤ 0x7a) ∨
      0x30 ≤ character.toNat ∧ character.toNat ≤ 0x39 at alphanum
  rw [isAscii, Nat.blt_eq]
  omega

theorem isAlphanumeric_of_isAlphanum {character : Char}
    (alphanum : character.isAlphanum = true) :
    isAlphanumeric character = true := by
  have ascii := isAscii_of_isAlphanum alphanum
  rw [(agreesWithTables_of_isAscii ascii).alphanumeric, alphanum]

section Words

variable {word : List Char}
  (ascii : ∀ character ∈ word, isAscii character = true)

include ascii

/-- A word of ASCII has no sigma, so it is lowered character by character. -/
theorem lowercaseWord_of_isAscii :
    lowercaseWord word = word.map Char.toLower := by
  have after (before : List Char) :
      lowercaseAfter before word = word.map Char.toLower := by
    induction word generalizing before with
    | nil => rfl
    | cons character rest ih =>
        obtain ⟨here, others⟩ := List.forall_mem_cons.mp ascii
        have notSigma : character ≠ sigma := by
          rintro rfl
          exact absurd here (by decide)
        have lowered := (agreesWithTables_of_isAscii here).toLower
        rw [lowercaseAfter, if_neg fun both => notSigma both.1, lowered,
          ih others, List.map_cons]
        rfl
  exact after []

theorem uppercaseWord_of_isAscii :
    uppercaseWord word = word.map Char.toUpper := by
  rw [uppercaseWord, List.map_eq_flatMap]
  apply List.flatMap_congr
  intro character member
  exact (agreesWithTables_of_isAscii (ascii character member)).toUpper

/-- The small letters behind the first character of a capitalized word. -/
theorem flatMap_toLowercase_of_isAscii :
    word.flatMap toLowercase = word.map Char.toLower := by
  rw [List.map_eq_flatMap]
  apply List.flatMap_congr
  intro character member
  exact (agreesWithTables_of_isAscii (ascii character member)).toLower

end Words

end AggregateRules.Unicode
