import AggregateRules.Json.Numeral
import AggregateRules.Json.Reader.Numeral

/-!
# Integers are read back

An integer is written in decimal digits without a zero in front. As long as it
fits into 64 bits and no further digit, point or exponent stands behind it, the
reader finds this integer again, see `number_written`.
-/

namespace AggregateRules.Json.Reader

/-- Whether an integer fits into 64 bits, signed or unsigned. -/
def isWord (value : Int) : Bool :=
  decide (-Nat.pow 2 63 ≤ value ∧ value < Nat.pow 2 64)

/-- Whether a text that follows a number does not continue it. -/
def EndsNumber (rest : List Char) : Prop :=
  ∀ character ∈ rest.head?, character.isDigit = false ∧ character ≠ '.' ∧
    character ≠ 'e' ∧ character ≠ 'E'

theorem toDigits_head_ne_zero {value : Nat} (positive : 0 < value) :
    (Nat.toDigits 10 value).head? ≠ some '0' := by
  induction value using Nat.strongRecOn with
  | ind value ih =>
      by_cases small : value < 10
      · rw [Nat.toDigits_of_lt_base small, List.head?_cons]
        have apart : ∀ digit < 10, 0 < digit → Nat.digitChar digit ≠ '0' := by
          decide
        exact fun isZero => apart value small positive (Option.some.inj isZero)
      · have further := ih (value / 10) (by omega) (by omega)
        rw [Nat.toDigits_of_base_le (by decide) (by omega)]
        cases shape : Nat.toDigits 10 (value / 10) with
        | nil => exact absurd shape Nat.toDigits_ne_nil
        | cons first more =>
            rw [shape] at further
            exact further

theorem isDigit_of_toDigits_eq {value : Nat} {first : Char}
    {more : List Char} (shape : Nat.toDigits 10 value = first :: more) :
    first.isDigit = true :=
  Nat.isDigit_of_mem_toDigits (by decide) (by decide)
    (shape ▸ List.mem_cons_self)

section

variable {rest : List Char} (ends : EndsNumber rest) (value : Nat)

include ends

theorem takeWhile_toDigits :
    (Nat.toDigits 10 value ++ rest).takeWhile Char.isDigit =
        Nat.toDigits 10 value ∧
      (Nat.toDigits 10 value ++ rest).dropWhile Char.isDigit = rest := by
  have digits : ∀ character ∈ Nat.toDigits 10 value, character.isDigit :=
    fun _ member => Nat.isDigit_of_mem_toDigits (by decide) (by decide) member
  rw [List.takeWhile_append_of_pos digits, List.dropWhile_append_of_pos digits]
  cases rest with
  | nil => simp
  | cons first more =>
      have noDigit := (ends first rfl).1
      simp [noDigit]

theorem someDigits_toDigits :
    someDigits (Nat.toDigits 10 value ++ rest) =
      .ok (Nat.toDigits 10 value, rest) := by
  obtain ⟨taken, dropped⟩ := takeWhile_toDigits ends value
  cases shape : Nat.toDigits 10 value with
  | nil => exact absurd shape Nat.toDigits_ne_nil
  | cons first more =>
      rw [shape, List.cons_append] at taken dropped
      rw [List.cons_append, someDigits, if_pos (isDigit_of_toDigits_eq shape),
        taken, dropped]

theorem wholeDigits_toDigits :
    wholeDigits (Nat.toDigits 10 value ++ rest) =
      .ok (Nat.toDigits 10 value, rest) := by
  simp only [wholeDigits, someDigits_toDigits ends value, bind, Except.bind]
  split
  · next second others shape =>
      rcases Nat.eq_zero_or_pos value with rfl | positive
      · rw [Nat.toDigits_zero] at shape
        cases shape
      · exact absurd (congrArg List.head? shape)
          (toDigits_head_ne_zero positive)
  · rfl

omit value in
/-- Behind the digits there is neither a fraction nor an exponent. -/
theorem afterWhole_of_endsNumber :
    fractionDigits rest = .ok (none, rest) ∧
      exponentDigits rest = .ok (none, rest) := by
  cases rest with
  | nil => exact ⟨rfl, rfl⟩
  | cons first more =>
      obtain ⟨-, noPoint, lower, upper⟩ := ends first rfl
      constructor
      · unfold fractionDigits
        split
        · next point =>
            cases point
            exact absurd rfl noPoint
        · rfl
      · exact if_neg (not_or.mpr ⟨lower, upper⟩)

theorem numeral_toDigits :
    numeral (Nat.toDigits 10 value ++ rest) =
      .ok (⟨false, Nat.toDigits 10 value, none, none⟩, rest) := by
  have whole := wholeDigits_toDigits ends value
  obtain ⟨noFraction, noExponent⟩ := afterWhole_of_endsNumber ends
  cases shape : Nat.toDigits 10 value with
  | nil => exact absurd shape Nat.toDigits_ne_nil
  | cons first more =>
      have isDigit := isDigit_of_toDigits_eq shape
      rw [shape] at whole
      unfold numeral
      split
      next negative unsigned parted =>
        split at parted
        · next minus =>
            cases minus
            cases isDigit
        · cases parted
          simp only [whole, noFraction, noExponent, bind, Except.bind]

theorem numeral_minus_toDigits :
    numeral ('-' :: Nat.toDigits 10 value ++ rest) =
      .ok (⟨true, Nat.toDigits 10 value, none, none⟩, rest) := by
  have whole := wholeDigits_toDigits ends value
  obtain ⟨noFraction, noExponent⟩ := afterWhole_of_endsNumber ends
  simp only [numeral, List.cons_append, whole, noFraction, noExponent, bind,
    Except.bind]

end

theorem number_of_numeral {text rest : List Char} {written : Numeral}
    {value : Number} (read : numeral text = .ok (written, rest))
    (found : numeralValue written = .ok value) :
    number text = .ok (value, rest) := by
  rw [number, read]
  simp only [found, bind, Except.bind]

/-- An integer of 64 bits is read back from its digits. -/
theorem number_written {value : Int} (word : isWord value = true)
    {rest : List Char} (ends : EndsNumber rest) :
    number ((Number.integer value).written ++ rest) =
      .ok (.integer value, rest) := by
  rw [isWord, decide_eq_true_eq] at word
  cases value with
  | ofNat magnitude =>
      have small : magnitude < Nat.pow 2 64 := by
        have below := word.2
        rw [Int.ofNat_eq_natCast] at below
        omega
      apply number_of_numeral (numeral_toDigits ends magnitude)
      simp [numeralValue, Nat.ofDigitChars_ten_toDigits, small]
  | negSucc magnitude =>
      have small : magnitude + 1 ≤ Nat.pow 2 63 := by
        have above := word.1
        omega
      apply number_of_numeral (numeral_minus_toDigits ends (magnitude + 1))
      simp [numeralValue, Nat.ofDigitChars_ten_toDigits, small,
        Int.negSucc_eq]

end AggregateRules.Json.Reader
