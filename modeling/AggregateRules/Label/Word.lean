import AggregateRules.Unicode.Casing

/-!
# Words of a label

The elements of a model carry labels that people wrote, such as `Order Placed`,
`order-placed` or `HTTPServer`. A label is read as a list of words: separators
are dropped, and a word ends where the class of the characters changes, except
that a capital keeps the small letters after it. Of several capitals in a row,
the last one begins the next word if a small letter follows.
-/

namespace AggregateRules.Label

open Unicode

/-- The classes that keep a word together. `other` holds the letters of scripts
without case and all numbers but the ASCII digits. -/
inductive CharacterClass where
  | upper
  | lower
  | digit
  | other
  deriving DecidableEq

/-- The class of an alphanumeric character; any other character is a separator
and has none. -/
def characterClass? (character : Char) : Option CharacterClass :=
  if isUppercase character then some .upper
  else if isLowercase character then some .lower
  else if character.isDigit then some .digit
  else if isAlphanumeric character then some .other
  else none

/-- The first word of a text that starts with `first`, which is no separator,
and the text after that word. -/
def firstWord (first : Char) (rest : List Char) : List Char × List Char :=
  let alike := fun character =>
    characterClass? character == characterClass? first
  let run := rest.takeWhile alike
  let after := rest.dropWhile alike
  if characterClass? first = some .upper ∧
      (after.head?.map isLowercase).getD false then
    match run.getLast? with
    | none =>
        (first :: after.takeWhile isLowercase, after.dropWhile isLowercase)
    | some capital => (first :: run.dropLast, capital :: after)
  else
    (first :: run, after)

theorem length_takeWhile_add_length_dropWhile (keeps : Char → Bool)
    (text : List Char) :
    (text.takeWhile keeps).length + (text.dropWhile keeps).length =
      text.length := by
  rw [← List.length_append, List.takeWhile_append_dropWhile]

/-- The text after the first word is no longer than the text after the first
character. -/
theorem length_firstWord_snd_le (first : Char) (rest : List Char) :
    (firstWord first rest).2.length ≤ rest.length := by
  have run_and_after := length_takeWhile_add_length_dropWhile
    (fun character => characterClass? character == characterClass? first) rest
  have small_and_after := length_takeWhile_add_length_dropWhile isLowercase
    (rest.dropWhile fun character =>
      characterClass? character == characterClass? first)
  unfold firstWord
  dsimp only
  split
  · split
    · dsimp only
      omega
    · next capital last =>
        have nonempty := List.length_pos_of_mem (List.mem_of_getLast? last)
        simp only [List.length_cons]
        omega
  · dsimp only
    omega

/-- The words of a text, in order. -/
def splitWords : List Char → List (List Char)
  | [] => []
  | character :: rest =>
      if isAlphanumeric character then
        (firstWord character rest).1 :: splitWords (firstWord character rest).2
      else
        splitWords rest
termination_by text => text.length
decreasing_by
  · have := length_firstWord_snd_le character rest
    simp only [List.length_cons]
    omega
  · simp

end AggregateRules.Label
