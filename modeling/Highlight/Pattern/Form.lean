import Highlight.Pattern.CharSet
import Highlight.Text.Cursor

/-!
# Forms of patterns

A form describes pieces of a line.  It is read from a cursor onward, and it sees the character
before the cursor as well, so that its assertions hold of the whole line and not only of the part
that is left.
-/

namespace Highlight

/-- A condition on a place, which takes no characters. -/
inductive Assertion where
  | textStart
  | textEnd
  /-- The start of the text or a place behind a newline. -/
  | lineStart
  /-- The end of the text or a place before a newline. -/
  | lineEnd
  /-- The start of a line, where a carriage return ends a line as well, alone or together with the
  newline behind it. -/
  | crlfLineStart
  /-- The end of a line that may end with a carriage return. -/
  | crlfLineEnd
  /-- A place where exactly one neighbour is a word character. -/
  | wordBoundary
  /-- A place where both neighbours are word characters, or neither is. -/
  | noWordBoundary
  | wordStart
  | wordEnd
  /-- A place that no word character stands before. -/
  | noWordBefore
  /-- A place that no word character stands behind. -/
  | noWordBehind
  -- The same with only the letters, digits and the underscore of ASCII as word characters.
  | asciiWordBoundary
  | noAsciiWordBoundary
  | asciiWordStart
  | asciiWordEnd
  | noAsciiWordBefore
  | noAsciiWordBehind
deriving DecidableEq, Repr

namespace Assertion

/-- There is a neighbour, and it is a word character. -/
def isWordNeighbour : Option Char → Bool
  | some c => Unicode.isWord c
  | none => false

/-- There is a neighbour, and it is a word character of ASCII. -/
def isAsciiWordNeighbour : Option Char → Bool
  | some c => c.isAlphanum || c == '_'
  | none => false

/-- The assertion holds at the place. -/
def holds : Assertion → Cursor → Bool
  | textStart, c => c.before.isNone
  | textEnd, c => c.rest.isEmpty
  | lineStart, c => c.before.isNone || c.before == some '\n'
  | lineEnd, c => c.rest.isEmpty || c.rest.head? == some '\n'
  | crlfLineStart, c =>
    c.before.isNone || c.before == some '\n' ||
      (c.before == some '\r' && c.rest.head? != some '\n')
  | crlfLineEnd, c =>
    c.rest.isEmpty || c.rest.head? == some '\r' ||
      (c.rest.head? == some '\n' && c.before != some '\r')
  | wordBoundary, c => isWordNeighbour c.before != isWordNeighbour c.rest.head?
  | noWordBoundary, c => isWordNeighbour c.before == isWordNeighbour c.rest.head?
  | wordStart, c => !isWordNeighbour c.before && isWordNeighbour c.rest.head?
  | wordEnd, c => isWordNeighbour c.before && !isWordNeighbour c.rest.head?
  | noWordBefore, c => !isWordNeighbour c.before
  | noWordBehind, c => !isWordNeighbour c.rest.head?
  | asciiWordBoundary, c => isAsciiWordNeighbour c.before != isAsciiWordNeighbour c.rest.head?
  | noAsciiWordBoundary, c => isAsciiWordNeighbour c.before == isAsciiWordNeighbour c.rest.head?
  | asciiWordStart, c => !isAsciiWordNeighbour c.before && isAsciiWordNeighbour c.rest.head?
  | asciiWordEnd, c => isAsciiWordNeighbour c.before && !isAsciiWordNeighbour c.rest.head?
  | noAsciiWordBefore, c => !isAsciiWordNeighbour c.before
  | noAsciiWordBehind, c => !isAsciiWordNeighbour c.rest.head?

end Assertion

namespace Pattern

/-- The form of a piece.  Where a piece can be read in several ways, the order of the parts of
its form says which way is preferred: the left alternative, and more repetitions if the form is
greedy. -/
inductive Form where
  /-- The empty piece. -/
  | empty
  /-- One character of the set. -/
  | set (s : CharSet)
  | assertion (a : Assertion)
  /-- A piece of the form `f`, captured as group `index`. -/
  | group (index : Nat) (f : Form)
  | seq (f g : Form)
  | alt (f g : Form)
  /-- From `min` to `max` pieces of the form `f`, without an upper bound if `max` is absent. -/
  | times (f : Form) (min : Nat) (max : Option Nat) (greedy : Bool)
deriving DecidableEq, Repr

namespace Form

/-- One character. -/
def char (c : Char) : Form :=
  set (CharSet.single c)

/-- The forms one after another. -/
def inSequence : List Form → Form
  | [] => empty
  | f :: fs => fs.foldl seq f

/-- The first of the forms that can be read. -/
def firstOf : List Form → Form
  | [] => set CharSet.nothing
  | [f] => f
  | f :: fs => alt f (firstOf fs)

/-- The characters of a word, one after another. -/
def word (w : String) : Form :=
  inSequence (w.toList.map char)

/-- The first of the words that can be read. -/
def oneOf (words : List String) : Form :=
  firstOf (words.map word)

/-- Any number of repetitions, as many as possible. -/
def many (f : Form) : Form :=
  times f 0 none true

/-- At least one repetition, as many as possible. -/
def many1 (f : Form) : Form :=
  times f 1 none true

/-- The form or, failing that, the empty piece. -/
def opt (f : Form) : Form :=
  times f 0 (some 1) true

/-- Any number of repetitions, as few as possible. -/
def few (f : Form) : Form :=
  times f 0 none false

/-! ### What pieces take -/

/-- Every piece of the form takes at least one character. -/
def takesText : Form → Bool
  | empty | assertion _ => false
  | set _ => true
  | group _ f => f.takesText
  | seq f g => f.takesText || g.takesText
  | alt f g => f.takesText && g.takesText
  | times f min _ _ => min != 0 && f.takesText

/-- No piece of the form takes a character. -/
def isWidthless : Form → Bool
  | empty | assertion _ => true
  | set _ => false
  | group _ f => f.isWidthless
  | seq f g | alt f g => f.isWidthless && g.isWidthless
  | times f _ max _ => max == some 0 || f.isWidthless

end Form

end Pattern

end Highlight
