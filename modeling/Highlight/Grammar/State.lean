import Highlight.Token.Basic

/-!
# Line states

What one line of a document leaves for the next: the modes that have been entered and not yet
left and, while the innermost of them hands its lines to another grammar, the state that the
other grammar is in.  A mode is given by its index in its grammar, and the mode with index zero
is in force when none has been entered.
-/

namespace Highlight

/-- The state of a grammar between two lines, with the modes that have been entered, the
innermost first. -/
inductive LineState where
  | plain (stack : List Nat)
  /-- The innermost mode has handed a line to another grammar, which is in the state `inner`. -/
  | embedding (stack : List Nat) (inner : LineState)
deriving DecidableEq, Repr

namespace LineState

/-- The state at the start of every document. -/
def root : LineState :=
  plain []

/-- The modes that have been entered, the innermost first. -/
def stack : LineState → List Nat
  | plain stack => stack
  | embedding stack _ => stack

/-- The state of the embedded grammar. -/
def embedded? : LineState → Option LineState
  | plain _ => none
  | embedding _ inner => some inner

/-- The index of the mode in force. -/
def mode (s : LineState) : Nat :=
  s.stack.headD 0

/-- The number of modes that have been entered. -/
def depth (s : LineState) : Nat :=
  s.stack.length

/-- No mode has been entered. -/
def isRoot (s : LineState) : Bool :=
  s.stack.isEmpty

/-- Enters a mode. -/
def push (s : LineState) (mode : Nat) : LineState :=
  plain (mode :: s.stack)

/-- Leaves the innermost mode, if one has been entered. -/
def pop (s : LineState) : LineState :=
  plain s.stack.tail

end LineState

/-- A line that has been sorted into tokens. -/
structure TokenizedLine where
  /-- The grammar that classified the line. -/
  grammar : String
  /-- The tokens of the line, in order. -/
  tokens : List Token
  /-- The state for the next line. -/
  endState : LineState
deriving DecidableEq, Repr

namespace TokenizedLine

/-- The tokens of a kind. -/
def ofKind (l : TokenizedLine) (k : TokenKind) : List Token :=
  l.tokens.filter (·.kind == k)

/-- The kind of the byte at offset `n`. -/
def kindAt (l : TokenizedLine) (n : Nat) : Option TokenKind :=
  (l.tokens.find? (·.covers n)).map (·.kind)

/-- The tokens of a line in which nothing is classified. -/
def plainTokens (line : List Char) : List Token :=
  if line = [] then [] else [⟨0, Text.size line, .default⟩]

end TokenizedLine

end Highlight
