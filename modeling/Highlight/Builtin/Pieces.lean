import Highlight.Pattern.Basic

/-!
# Pieces of patterns

The patterns from which the rules of the built-in grammars are put together.
-/

namespace Highlight.Builtin

open Pattern Pattern.Form CharSet

/-- The letters without accents. -/
def letters : CharSet :=
  union (range 'a' 'z') (range 'A' 'Z')

def wordStart : Form :=
  assertion .wordBoundary

/-- The end of a word is the same kind of place as its start. -/
def wordEnd : Form :=
  assertion .wordBoundary

/-- White space, if there is any. -/
def blanks : Form :=
  many (set space)

/-- A letter or an underscore, and what follows it in its word. -/
def identifier : List Form :=
  [set (union letters (single '_')), many (set CharSet.word)]

/-- One of the words, as a whole word, captured as the first group. -/
def wholeWord (words : List String) : Form :=
  inSequence [wordStart, group 1 (oneOf words), wordEnd]

/-- A hash character and the rest of the line. -/
def hashComment : Form :=
  inSequence [char '#', many (set withinLine)]

/-- A decimal number, with a sign or with places behind a point. -/
def numeral : Form :=
  inSequence
    [opt (char '-'), many1 (set digit), opt (inSequence [char '.', many1 (set digit)])]

/-- A number that is captured as the first group and stands by itself: between the ends of the
line, white space, commas, and the brackets that can open before it or close behind it. -/
def standingNumeral (opening closing : List Char) : Form :=
  let between (brackets : List Char) : CharSet :=
    (',' :: brackets).foldl (fun s c => union s (single c)) space
  inSequence
    [alt (assertion .textStart) (set (between opening)),
      group 1 numeral,
      alt (set (between closing)) (assertion .textEnd)]

end Highlight.Builtin
