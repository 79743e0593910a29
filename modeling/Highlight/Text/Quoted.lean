import Highlight.Text.Hexadecimal
import Highlight.Unicode.Numbered

/-!
# Quoted text

A text between double quotes, in which quotes, backslashes and characters without a picture
of their own are written by escapes.
-/

namespace Highlight.Text

/-- A character as it is written between quotes. -/
def quotedChar : Char → List Char
  | '"' => ['\\', '"']
  | '\\' => ['\\', '\\']
  | '\n' => ['\\', 'n']
  | '\r' => ['\\', 'r']
  | '\t' => ['\\', 't']
  | '\x00' => ['\\', '0']
  | c => if Unicode.isNumbered c then ['\\', 'u', '{'] ++ hex c.toNat ++ ['}'] else [c]

/-- A text between quotes. -/
def quoted (text : List Char) : List Char :=
  '"' :: (text.flatMap quotedChar ++ ['"'])

end Highlight.Text
