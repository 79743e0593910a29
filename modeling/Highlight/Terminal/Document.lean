import Highlight.Grammar.State
import Highlight.Terminal.Styled
import Highlight.Text.Lines
import Highlight.Text.Quoted
import Highlight.Text.Width
import Highlight.Theme

/-!
# Documents on a terminal

A tokenized document is shown either as its text, in the styles of a theme or without any, or as
a list of its classified tokens with the cells that they take.
-/

namespace Highlight.Terminal

/-- A line in the styles of its tokens. -/
def renderLine (theme : Theme) (line : List Char) (l : TokenizedLine) : List Char :=
  l.tokens.flatMap (fun t => styled (theme.style t.kind) (t.text line)) ++ ['\n']

/-- A document, in the styles of its tokens if there is a theme.  It ends with its text or with
the tokenized lines, whichever ends first. -/
def renderDocument (theme : Option Theme) (text : String) (lines : List TokenizedLine) :
    List Char :=
  ((Text.lines text).zip lines).flatMap fun (line, l) =>
    match theme with
    | some theme => renderLine theme line l
    | none => line ++ ['\n']

/-- The first column of a token, from one on.  A token that does not start at a boundary of
the line counts as one at its start. -/
def startColumn (line : List Char) (t : Token) : Nat :=
  Text.width ((Text.takeTo? t.start line).getD []) + 1

/-- The line of the list that shows a token: its place, its scope, the grammar and its text. -/
def tokenEntry (number : Nat) (grammar : String) (line : List Char) (t : Token) : List Char :=
  let first := startColumn line t
  let last := first + Text.width (t.text line)
  (toString number ++ ":" ++ toString first ++ "-" ++ toString last ++ " " ++ t.kind.scope ++ " "
    ++ grammar ++ " ").toList ++ Text.quoted (t.text line) ++ ['\n']

/-- The list of the classified tokens of a line. -/
def lineEntries (number : Nat) (line : List Char) (l : TokenizedLine) : List Char :=
  (l.tokens.filter (·.kind != .default)).flatMap (tokenEntry number l.grammar line)

/-- The list of the classified tokens of lines, of which the first has the given number. -/
def entriesFrom (number : Nat) : List (List Char × TokenizedLine) → List Char
  | [] => []
  | (line, l) :: lines => lineEntries number line l ++ entriesFrom (number + 1) lines

/-- The list of the classified tokens of a document. -/
def dump (text : String) (lines : List TokenizedLine) : List Char :=
  entriesFrom 1 ((Text.lines text).zip lines)

end Highlight.Terminal
