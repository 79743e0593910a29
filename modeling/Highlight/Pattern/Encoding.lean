import Highlight.Pattern.CharSet

/-!
# Encodings of sets

The bytes that encode the characters of a set.  A set is brought into ascending ranges of code
points, and each range into sequences of byte ranges, each of which stands for all the characters
whose encodings take one byte from each of its ranges in turn.
-/

namespace Highlight

namespace CharSet

/-- The ascending ranges of the code points of a set. -/
def ranges : CharSet → List (Nat × Nat)
  | range first last => if first ≤ last then [(first.toNat, last.toNat)] else []
  | anyCase first last =>
    if first = last then Unicode.pointRanges (Unicode.caseVariants first)
    else Unicode.ignoringCase [(first.toNat, last.toNat)]
  | word => Unicode.wordRanges
  | digit => Unicode.digitRanges
  | space => Unicode.spaceRanges
  | union a b => Unicode.mergeRanges a.ranges b.ranges
  | compl a => Unicode.outside a.ranges

end CharSet

/-! ### Sequences of byte ranges -/

/-- Ranges of bytes that follow one another. -/
abbrev ByteSequence := List (Nat × Nat)

namespace ByteSequence

/-- The sequences for the numbers from `low` to `high`, of which all but the first byte hold six
bits each. -/
def between : (further : Nat) → (low high : Nat) → List ByteSequence
  | 0, low, high => [[(low, high)]]
  | n + 1, low, high =>
    let unit := Nat.pow 64 (n + 1)
    let a := low / unit
    let b := high / unit
    if a = b then (between n (low % unit) (high % unit)).map ((a, a) :: ·)
    else
      let wholeLow := low % unit = 0
      let wholeHigh := high % unit = unit - 1
      let first := if wholeLow then a else a + 1
      let last := if wholeHigh then b + 1 else b
      (if wholeLow then [] else (between n (low % unit) (unit - 1)).map ((a, a) :: ·)) ++
        (if first < last then (between n 0 (unit - 1)).map ((first, last - 1) :: ·) else []) ++
        (if wholeHigh then [] else (between n 0 (high % unit)).map ((b, b) :: ·))

/-- The ranges of code points whose encodings have the same length: their bounds, the number of
bytes behind the first, and what the first byte has in addition to the bits of the code point. -/
def lengths : List (Nat × Nat × Nat × Nat) :=
  [(0, 0x7F, 0, 0), (0x80, 0x7FF, 1, 0xC0), (0x800, 0xD7FF, 2, 0xE0), (0xE000, 0xFFFF, 2, 0xE0),
    (0x10000, Unicode.lastCode, 3, 0xF0)]

/-- The sequence with a number added to the bounds of its first byte. -/
def lead (n : Nat) : ByteSequence → ByteSequence
  | (a, b) :: rest => (a + n, b + n) :: rest
  | [] => []

/-- The sequences for a range of code points. -/
def ofRange (r : Nat × Nat) : List ByteSequence :=
  lengths.flatMap fun (first, last, further, mark) =>
    let low := max r.1 first
    let high := min r.2 last
    if low ≤ high then (between further low high).map (lead mark) else []

/-- The sequences for a set, in ascending order. -/
def ofSet (s : CharSet) : List ByteSequence :=
  s.ranges.flatMap ofRange

end ByteSequence

end Highlight
