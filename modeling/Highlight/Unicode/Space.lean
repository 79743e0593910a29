import Highlight.Unicode.Ranges

/-!
# White space

The characters with the property White_Space, 25 in all.
-/

namespace Highlight.Unicode

/-- The ranges of the white space characters. -/
def spaceRanges : List (Nat × Nat) :=
  [(0x9, 0xD), (0x20, 0x20), (0x85, 0x85), (0xA0, 0xA0), (0x1680, 0x1680), (0x2000, 0x200A),
   (0x2028, 0x2029), (0x202F, 0x202F), (0x205F, 0x205F), (0x3000, 0x3000)]

/-- The character is white space. -/
def isSpace (c : Char) : Bool :=
  inRanges spaceRanges c.toNat

end Highlight.Unicode
