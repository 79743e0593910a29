import Highlight.Unicode.Case
import Highlight.Unicode.Digit
import Highlight.Unicode.Space
import Highlight.Unicode.Word

/-!
# Sets of characters

The sets of characters that a pattern can ask for: ranges, the word, digit and space
characters, and what is made of them by union and complement.
-/

namespace Highlight

/-- A set of characters. -/
inductive CharSet where
  /-- The characters from `first` to `last`. -/
  | range (first last : Char)
  /-- The characters that differ at most in case from one between `first` and `last`. -/
  | anyCase (first last : Char)
  | word
  | digit
  | space
  | union (a b : CharSet)
  | compl (a : CharSet)
deriving DecidableEq, Repr

namespace CharSet

/-- The character belongs to the set. -/
def contains : CharSet → Char → Bool
  | range first last, c => first ≤ c && c ≤ last
  | anyCase first last, c => (Unicode.caseVariants c).any fun d => first ≤ d && d ≤ last
  | word, c => Unicode.isWord c
  | digit, c => Unicode.isDigit c
  | space, c => Unicode.isSpace c
  | union a b, c => a.contains c || b.contains c
  | compl a, c => !a.contains c

/-- The set of one character. -/
def single (c : Char) : CharSet :=
  range c c

/-- The set of all characters. -/
def all : CharSet :=
  range '\x00' (Char.ofNat 0x10FFFF)

/-- The set of no characters. -/
def nothing : CharSet :=
  compl all

/-- The set of the listed characters. -/
def ofList : List Char → CharSet
  | [] => nothing
  | [c] => single c
  | c :: cs => union (single c) (ofList cs)

def inter (a b : CharSet) : CharSet :=
  compl (union (compl a) (compl b))

def diff (a b : CharSet) : CharSet :=
  inter a (compl b)

/-- The characters that belong to exactly one of the sets. -/
def symmDiff (a b : CharSet) : CharSet :=
  union (diff a b) (diff b a)

/-- The characters other than the newline. -/
def withinLine : CharSet :=
  compl (single '\n')

/-- The characters other than the newline and the carriage return. -/
def withinReturns : CharSet :=
  compl (union (single '\n') (single '\r'))

/-- The union of the ranges whose first and last characters are listed. -/
def ofPairs : List (Char × Char) → CharSet
  | [] => nothing
  | [(first, last)] => range first last
  | (first, last) :: pairs => union (range first last) (ofPairs pairs)

/-- The set of the characters whose code points lie in ascending ranges.  A range that starts or
ends between the characters starts or ends at the next one. -/
def ofRanges (ranges : List (Nat × Nat)) : CharSet :=
  ofPairs (ranges.map fun (first, last) =>
    (Char.ofNat (if first.isValidChar then first else 0xE000),
      Char.ofNat (if last.isValidChar then last else 0xD7FF)))

end CharSet

end Highlight
