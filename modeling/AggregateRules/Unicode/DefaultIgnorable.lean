import AggregateRules.Unicode.Run

/-!
# Ignorable characters

The derived property Default_Ignorable_Code_Point of the Unicode character
database, version 17.0: characters that a reader does not see, such as joiners,
variation selectors and the fillers of Hangul syllables, which are letters.
-/

namespace AggregateRules.Unicode

/-- The code points of the property, in ascending runs. -/
def defaultIgnorableRuns : List Run :=
  [ ⟨0xad, 0xad, 1⟩, ⟨0x34f, 0x34f, 1⟩, ⟨0x61c, 0x61c, 1⟩,
    ⟨0x115f, 0x1160, 1⟩, ⟨0x17b4, 0x17b5, 1⟩, ⟨0x180b, 0x180f, 1⟩,
    ⟨0x200b, 0x200f, 1⟩, ⟨0x202a, 0x202e, 1⟩, ⟨0x2060, 0x206f, 1⟩,
    ⟨0x3164, 0x3164, 1⟩, ⟨0xfe00, 0xfe0f, 1⟩, ⟨0xfeff, 0xfeff, 1⟩,
    ⟨0xffa0, 0xffa0, 1⟩, ⟨0xfff0, 0xfff8, 1⟩, ⟨0x1bca0, 0x1bca3, 1⟩,
    ⟨0x1d173, 0x1d17a, 1⟩, ⟨0xe0000, 0xe0fff, 1⟩ ]

end AggregateRules.Unicode
