/-!
# The lines of a text

A line ends with a newline, or with a carriage return and a newline.  The end is not part of
the line, and a text that ends with a newline has no empty line after it.  A carriage
return elsewhere is a character of its line.
-/

namespace Highlight.Text

/-- The line collected in reverse up to a newline, without a carriage return at its end. -/
def endLine : List Char → List Char
  | '\r' :: collected => collected.reverse
  | collected => collected.reverse

/-- The lines of a text of which the characters in `collected`, in reverse, were read before. -/
def linesFrom (collected : List Char) : List Char → List (List Char)
  | [] => if collected = [] then [] else [collected.reverse]
  | '\n' :: text => endLine collected :: linesFrom [] text
  | c :: text => linesFrom (c :: collected) text

/-- The lines of a text. -/
def lines (text : String) : List (List Char) :=
  linesFrom [] text.toList

end Highlight.Text
