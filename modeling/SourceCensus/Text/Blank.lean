import SourceCensus.Text.CharRange

/-! # Blank characters

    White space in the widest sense: the ASCII controls U+0009 to U+000D and U+001C
    to U+001F, the space, and the separators of Unicode. Main operations: `isBlank`
    decides the class, `strip` removes blanks at both ends.
-/

namespace SourceCensus.Text

/-- The code points that are white space. -/
def blankRanges : List (Nat × Nat) :=
  [(0x9, 0xD), (0x1C, 0x20), (0x85, 0x85), (0xA0, 0xA0), (0x1680, 0x1680), (0x2000, 0x200A),
   (0x2028, 0x2029), (0x202F, 0x202F), (0x205F, 0x205F), (0x3000, 0x3000)]

/-- White space of any script. -/
def isBlank (c : Char) : Bool := inRanges blankRanges c.toNat

/-- The text without the characters of a class at its end. -/
def trimRight (drop : Char → Bool) (t : List Char) : List Char :=
  (t.reverse.dropWhile drop).reverse

/-- The text without the characters of a class at either end. -/
def trim (drop : Char → Bool) (t : List Char) : List Char :=
  trimRight drop (t.dropWhile drop)

/-- The text without white space at either end. -/
def strip (t : List Char) : List Char := trim isBlank t

/-- A string without white space at either end. -/
def stripString (s : String) : String := String.ofList (strip s.toList)

end SourceCensus.Text
