import Highlight.Pattern.Parse
import Highlight.Pattern.Reading
import Highlight.Token.Kind

/-!
# Rules

A rule classifies what a pattern reads from a place on, or only what one group of the pattern
captures there, and says how the mode changes after it.  A rule that takes nothing
applies only if it changes the mode.
-/

namespace Highlight

/-- How the mode changes after a rule has applied. -/
inductive Action where
  | stay
  /-- Enters the named mode of the same grammar. -/
  | push (mode : String)
  /-- Goes back to the mode before. -/
  | pop
deriving DecidableEq, Repr

/-- The mode that an action enters. -/
def Action.target? : Action → Option String
  | .push mode => some mode
  | _ => none

/-- A classification of what a pattern reads. -/
structure Rule where
  name : String
  pattern : Pattern
  kind : TokenKind
  /-- The group that bounds the token; the token is all that is read if absent. -/
  group : Option Nat := none
  action : Action := .stay
deriving DecidableEq, Repr

/-- Where a rule applies. -/
structure RuleMatch where
  /-- The place tried. -/
  start : Nat
  /-- The start of the token. -/
  tokenStart : Nat
  /-- The end of the token, where classification goes on. -/
  tokenStop : Nat
deriving DecidableEq, Repr

namespace Rule

/-- The piece that a reading from offset `start` classifies. -/
def tokenSpan? (r : Rule) (start : Nat) (whole : Reading) : Option Span :=
  match r.group with
  | none | some 0 => some ⟨start, whole.stop⟩
  | some index => whole.span? index

/-- The rule tried at exactly one place. -/
def matchAt (r : Rule) (c : Cursor) : Option RuleMatch :=
  match r.pattern.matchAt c with
  | none => none
  | some whole =>
    match r.tokenSpan? c.offset whole with
    | none => none
    | some token =>
      if token.stop = c.offset ∧ r.action = .stay then none
      else some ⟨c.offset, token.start, token.stop⟩

/-- The offset of the first place from the cursor on where the pattern of the rule is read. -/
def search (r : Rule) (c : Cursor) : Option Nat :=
  r.pattern.search c

/-- The rule tried at an offset of a line. -/
def matchFrom (r : Rule) (line : List Char) (n : Nat) : Option RuleMatch :=
  (Cursor.at? line n).bind r.matchAt

/-- The first place from an offset of a line on where the pattern of the rule is read. -/
def findFrom (r : Rule) (line : List Char) (n : Nat) : Option Nat :=
  (Cursor.at? line n).bind r.search

end Rule

end Highlight
