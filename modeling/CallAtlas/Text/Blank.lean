import CallAtlas.Text.Cut

/-!
# Blank characters

A blank is a character of the class `White_Space`, or one of the four information separators
U+001C to U+001F. A zero width space (U+200B) and a byte order mark (U+FEFF) are not blank.

- `isBlank`: the class of one character;
- `allBlank`: whether a line has nothing else, the empty line included;
- `strip`: a text without the blanks at its two ends.
-/

namespace CallAtlas.Text

/-- The blank code points as inclusive ranges. -/
def blankRanges : List (Nat × Nat) :=
  [(0x09, 0x0D), (0x1C, 0x20), (0x85, 0x85), (0xA0, 0xA0), (0x1680, 0x1680), (0x2000, 0x200A),
   (0x2028, 0x2029), (0x202F, 0x202F), (0x205F, 0x205F), (0x3000, 0x3000)]

/-- Whether the character is blank. -/
def isBlank (c : Char) : Bool :=
  blankRanges.any fun r => r.1 ≤ c.toNat && c.toNat ≤ r.2

/-- Whether the text has blanks only. -/
def allBlank (s : String) : Bool :=
  s.toList.all isBlank

/-- The text without the blanks at its two ends. -/
def strip (s : String) : String :=
  String.ofList (trim isBlank s.toList)

end CallAtlas.Text
