import Highlight.Unicode.Case
import Highlight.Unicode.Space

/-!
# Styles of text

The sixteen colors of a terminal and its default color, and the styles made of a color
and three attributes.
-/

namespace Highlight

/-- A foreground color. -/
inductive Color where
  /-- The color the terminal uses by itself. -/
  | default
  | black
  | red
  | green
  | yellow
  | blue
  | magenta
  | cyan
  | white
  | brightBlack
  | brightRed
  | brightGreen
  | brightYellow
  | brightBlue
  | brightMagenta
  | brightCyan
  | brightWhite
deriving DecidableEq, Repr

namespace Color

def name : Color → String
  | default => "Default"
  | black => "Black"
  | red => "Red"
  | green => "Green"
  | yellow => "Yellow"
  | blue => "Blue"
  | magenta => "Magenta"
  | cyan => "Cyan"
  | white => "White"
  | brightBlack => "BrightBlack"
  | brightRed => "BrightRed"
  | brightGreen => "BrightGreen"
  | brightYellow => "BrightYellow"
  | brightBlue => "BrightBlue"
  | brightMagenta => "BrightMagenta"
  | brightCyan => "BrightCyan"
  | brightWhite => "BrightWhite"

/-- A written color name in the form that is looked up: in lower case, without hyphens,
underscores and white space. -/
def normalName (s : String) : String :=
  String.ofList (Unicode.lowercase
    (s.toList.filter fun c => c != '-' && c != '_' && !Unicode.isSpace c))

/-- The color with the given name.  Words may be joined by hyphens, underscores or spaces, or
written together, in any case; gray is bright black. -/
def ofName? (s : String) : Option Color :=
  match normalName s with
  | "default" => some default
  | "black" => some black
  | "red" => some red
  | "green" => some green
  | "yellow" => some yellow
  | "blue" => some blue
  | "magenta" => some magenta
  | "cyan" => some cyan
  | "white" => some white
  | "brightblack" => some brightBlack
  | "gray" => some brightBlack
  | "grey" => some brightBlack
  | "brightred" => some brightRed
  | "brightgreen" => some brightGreen
  | "brightyellow" => some brightYellow
  | "brightblue" => some brightBlue
  | "brightmagenta" => some brightMagenta
  | "brightcyan" => some brightCyan
  | "brightwhite" => some brightWhite
  | _ => none

end Color

/-- The way a piece of text is shown. -/
structure Style where
  color : Color := .default
  bold : Bool := false
  italic : Bool := false
  underline : Bool := false
deriving DecidableEq, Repr

namespace Style

/-- The style of text that is shown as it is. -/
def plain : Style := {}

/-- The style with only a color. -/
def ofColor (c : Color) : Style :=
  { color := c }

def withColor (s : Style) (c : Color) : Style :=
  { s with color := c }

def withBold (s : Style) : Style :=
  { s with bold := true }

def withItalic (s : Style) : Style :=
  { s with italic := true }

def withUnderline (s : Style) : Style :=
  { s with underline := true }

/-- The style shows text as it is. -/
def isPlain (s : Style) : Bool :=
  s == plain

end Style

end Highlight
