import Highlight.Style
import Highlight.Token.Kind

/-!
# Themes

The styles by which tokens are shown: each kind has a style of its own, and a theme may give it
another color.
-/

namespace Highlight

/-- The style of a kind of token where nothing else is said. -/
def TokenKind.defaultStyle : TokenKind → Style
  | type => .ofColor .yellow
  | typeIdentifier => .ofColor .brightBlue
  | keyword => (Style.ofColor .magenta).withBold
  | keywordControl => .ofColor .magenta
  | controlFlow => .ofColor .brightMagenta
  | comment => (Style.ofColor .brightBlack).withItalic
  | string => .ofColor .green
  | number => .ofColor .cyan
  | constant => .ofColor .brightRed
  | variableName => .ofColor .brightCyan
  | variableBracketed => (Style.ofColor .brightCyan).withUnderline
  | variableEmbedded => .ofColor .brightYellow
  | object => .ofColor .blue
  | identifier => .plain
  | default => .plain

/-- Colors that replace those of the default styles. -/
structure Theme where
  /-- The kinds with their colors, the latest first. -/
  colors : List (TokenKind × Color) := []
deriving DecidableEq, Repr

namespace Theme

/-- The theme with the given colors, of which the last one for a kind counts. -/
def ofColors (colors : List (TokenKind × Color)) : Theme :=
  ⟨colors.reverse⟩

/-- The style of a kind of token. -/
def style (t : Theme) (k : TokenKind) : Style :=
  match t.colors.lookup k with
  | some color => k.defaultStyle.withColor color
  | none => k.defaultStyle

end Theme

end Highlight
