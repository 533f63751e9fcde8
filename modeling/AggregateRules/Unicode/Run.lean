/-!
# Runs of code points

A property of characters is a table of runs, and a mapping of characters to
single characters is a table of runs that are moved as a whole. Upper and lower
case alternate in many scripts, so a run may take every second code point.
-/

namespace AggregateRules.Unicode

/-- The code points `first`, `first + stride`, … up to `last`. -/
structure Run where
  first : Nat
  last : Nat
  stride : Nat

/-- Whether the run holds a code point. -/
def Run.contains (run : Run) (point : Nat) : Bool :=
  run.first ≤ point && point ≤ run.last && (point - run.first) % run.stride == 0

/-- Whether some run of a table holds a character. -/
def hasRun (table : List Run) (character : Char) : Bool :=
  table.any fun run => run.contains character.toNat

/-- A run of code points that is mapped to the equally long run that starts at
`target`. -/
structure Shift extends Run where
  target : Nat

/-- The code point that the first fitting run of a table moves a code point to.
-/
def shifted? (table : List Shift) (point : Nat) : Option Nat :=
  (table.find? fun shift => shift.contains point).map fun shift =>
    shift.target + (point - shift.first)

end AggregateRules.Unicode
