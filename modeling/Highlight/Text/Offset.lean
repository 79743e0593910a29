/-!
# Offsets in a line

A line is a list of characters.  A place in it is given by its offset, the number of bytes
that the characters before it take in UTF-8.  An offset is a boundary of a line when a
character starts there or the line ends there; pieces of a line are cut out at boundaries.
-/

namespace Highlight.Text

/-- The number of bytes that a line takes. -/
def size (line : List Char) : Nat :=
  line.foldr (·.utf8Size + ·) 0

/-- The part of a line from offset `n` on, if `n` is a boundary. -/
def dropTo? : Nat → List Char → Option (List Char)
  | 0, line => some line
  | _ + 1, [] => none
  | n + 1, c :: line =>
    if c.utf8Size ≤ n + 1 then dropTo? (n + 1 - c.utf8Size) line else none

/-- The part of a line before offset `n`, if `n` is a boundary. -/
def takeTo? : Nat → List Char → Option (List Char)
  | 0, _ => some []
  | _ + 1, [] => none
  | n + 1, c :: line =>
    if c.utf8Size ≤ n + 1 then (takeTo? (n + 1 - c.utf8Size) line).map (c :: ·) else none

/-- The part of a line between two offsets, if both are boundaries in this order. -/
def slice? (start stop : Nat) (line : List Char) : Option (List Char) :=
  if start ≤ stop then (dropTo? start line).bind (takeTo? (stop - start)) else none

end Highlight.Text
