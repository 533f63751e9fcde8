import AggregateRules.Unicode.Alphabetic
import AggregateRules.Unicode.Uppercase
import AggregateRules.Unicode.Lowercase
import AggregateRules.Unicode.Numeric
import AggregateRules.Unicode.Cased
import AggregateRules.Unicode.CaseIgnorable
import AggregateRules.Unicode.UppercaseMapping
import AggregateRules.Unicode.LowercaseMapping

/-!
# Classes of characters and change of case

The classes that names are split by, and the case mappings that their spellings
are written with. A mapping may give several characters. Lowercasing a whole
word also writes a sigma at its end in the final form, which the mapping of a
single character cannot know.
-/

namespace AggregateRules.Unicode

def isAlphabetic (character : Char) : Bool :=
  hasRun alphabeticRuns character

def isUppercase (character : Char) : Bool :=
  hasRun uppercaseRuns character

def isLowercase (character : Char) : Bool :=
  hasRun lowercaseRuns character

/-- A letter of any script, or a number of any kind. -/
def isAlphanumeric (character : Char) : Bool :=
  isAlphabetic character || hasRun numericRuns character

def isCased (character : Char) : Bool :=
  hasRun casedRuns character

def isCaseIgnorable (character : Char) : Bool :=
  hasRun caseIgnorableRuns character

/-- The characters that two mapping tables give for a character, which is kept
when neither has it. -/
def mapCase (shifts : List Shift) (expansions : List (Nat × List Nat))
    (character : Char) :
    List Char :=
  match shifted? shifts character.toNat with
  | some point => [Char.ofNat point]
  | none =>
      match expansions.lookup character.toNat with
      | some points => points.map Char.ofNat
      | none => [character]

/-- The full uppercase form of one character, such as `SS` for a sharp s. -/
def toUppercase (character : Char) : List Char :=
  mapCase uppercaseShifts uppercaseExpansions character

/-- The full lowercase form of one character. -/
def toLowercase (character : Char) : List Char :=
  mapCase lowercaseShifts lowercaseExpansions character

/-- Whether the first character that is not case-ignorable is cased. -/
def meetsCased (characters : List Char) : Bool :=
  ((characters.dropWhile isCaseIgnorable).head?.map isCased).getD false

/-- Capital sigma. -/
def sigma : Char := Char.ofNat 0x3a3

/-- Small sigma in its final form. -/
def finalSigma : Char := Char.ofNat 0x3c2

/-- Lowercases the rest of a word; `before` holds the characters passed so far,
the nearest first. A sigma takes its final form if a cased character comes
before it and none comes after it. -/
def lowercaseAfter (before : List Char) : List Char → List Char
  | [] => []
  | character :: rest =>
      let lowered :=
        if character = sigma ∧ meetsCased before ∧ ¬ meetsCased rest then
          [finalSigma]
        else toLowercase character
      lowered ++ lowercaseAfter (character :: before) rest

/-- A word in lowercase. -/
def lowercaseWord (word : List Char) : List Char :=
  lowercaseAfter [] word

/-- A word in uppercase. -/
def uppercaseWord (word : List Char) : List Char :=
  word.flatMap toUppercase

end AggregateRules.Unicode
