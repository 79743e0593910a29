import Highlight.Style

/-!
# Styled text on a terminal

A terminal changes the style of the text that follows when it reads an escape sequence: the
escape character, a bracket, numbers and the letter `m`.
-/

namespace Highlight.Terminal

/-- The sequence with the given number text. -/
def sequence (numbers : String) : List Char :=
  '\x1b' :: '[' :: numbers.toList ++ ['m']

/-- The number of a color on a terminal of 256 colors; none for the color of the terminal itself. -/
def colorNumber? : Color → Option String
  | .default => none
  | .black => some "0"
  | .red => some "1"
  | .green => some "2"
  | .yellow => some "3"
  | .blue => some "4"
  | .magenta => some "5"
  | .cyan => some "6"
  | .white => some "7"
  | .brightBlack => some "8"
  | .brightRed => some "9"
  | .brightGreen => some "10"
  | .brightYellow => some "11"
  | .brightBlue => some "12"
  | .brightMagenta => some "13"
  | .brightCyan => some "14"
  | .brightWhite => some "15"

/-- The numbers by which a style is set. -/
def styleNumbers (s : Style) : List String :=
  (match colorNumber? s.color with
    | some n => ["38;5;" ++ n]
    | none => []) ++
  (if s.bold then ["1"] else []) ++
  (if s.italic then ["3"] else []) ++
  (if s.underline then ["4"] else [])

/-- Sets all attributes and the colors back, each by a sequence of its own. -/
def reset : List Char :=
  sequence "0" ++ sequence "0"

/-- A text in a style.  Text in the plain style is written as it is. -/
def styled (s : Style) (text : List Char) : List Char :=
  if s.isPlain then text
  else (styleNumbers s).flatMap sequence ++ text ++ reset

end Highlight.Terminal
