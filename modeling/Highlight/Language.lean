import Highlight.Unicode.Space

/-!
# Language configurations

What an editor knows of a language besides its tokens: how a line is commented out, which
brackets belong together, and which characters come in pairs when the first one is typed.
-/

namespace Highlight

/-- The comments and pairs of a language. -/
structure LanguageConfiguration where
  /-- What a line comment starts with. -/
  lineComment : Option String
  /-- The opening brackets with the closing ones. -/
  brackets : List (Char × Char)
  /-- The characters that are closed as soon as they are typed, with what closes them. -/
  autoClosing : List (Char × Char)
deriving DecidableEq, Repr

namespace LanguageConfiguration

/-- Comments behind a hash character, three kinds of brackets, and closed quotes and
parentheses. -/
def hashComments : LanguageConfiguration where
  lineComment := some "#"
  brackets := [('{', '}'), ('[', ']'), ('(', ')')]
  autoClosing := [('"', '"'), ('\'', '\''), ('(', ')')]

/-- The character that is put behind a typed one. -/
def autoClose (l : LanguageConfiguration) (c : Char) : Option Char :=
  l.autoClosing.lookup c

/-- The other bracket of a pair. -/
def matchingBracket (l : LanguageConfiguration) (c : Char) : Option Char :=
  l.brackets.findSome? fun (opening, closing) =>
    if c = opening then some closing
    else if c = closing then some opening
    else none

/-- The line has nothing but a comment, behind white space if there is any. -/
def isCommentLine (l : LanguageConfiguration) (line : List Char) : Bool :=
  match l.lineComment with
  | some marker => marker.toList.isPrefixOf (line.dropWhile Unicode.isSpace)
  | none => false

end LanguageConfiguration

end Highlight
