import Highlight.Text.Offset
import Highlight.Token.Kind

/-!
# Tokens

A token is a classified piece of a line, given by its offsets.
-/

namespace Highlight

/-- The piece of a line from offset `start` up to offset `stop`, with its kind. -/
structure Token where
  start : Nat
  stop : Nat
  kind : TokenKind
deriving DecidableEq, Repr

namespace Token

/-- The text of the token in its line, empty if the offsets do not cut the line. -/
def text (t : Token) (line : List Char) : List Char :=
  (Text.slice? t.start t.stop line).getD []

/-- The number of bytes of the token. -/
def size (t : Token) : Nat :=
  t.stop - t.start

def isEmpty (t : Token) : Bool :=
  t.stop ≤ t.start

/-- The byte at offset `n` belongs to the token. -/
def covers (t : Token) (n : Nat) : Bool :=
  t.start ≤ n && n < t.stop

/-- Puts a token behind tokens in reverse order.  Unclassified text that continues
unclassified text becomes one token with it. -/
def push (t : Token) : List Token → List Token
  | [] => [t]
  | last :: earlier =>
    if t.kind = .default ∧ last.kind = .default ∧ last.stop = t.start then
      { last with stop := t.stop } :: earlier
    else t :: last :: earlier

end Token

end Highlight
