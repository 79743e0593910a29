import Highlight.Grammar.Basic
import Highlight.Grammar.Lookahead

/-!
# Scanning a line

`Grammar.scan` sorts a line into tokens by the rules of the modes that it comes through.  At each
place the first rule that applies is taken; where none does, the text up to the next place where
one could is unclassified.  A rule may change the mode without taking any text, but only
once at each place, which is why scanning ends.
-/

namespace Highlight

/-- What the rules of a mode make of a place, where `stalled` says that the mode has been
changed there without taking any text. -/
inductive Choice (stalled : Bool) where
  /-- The rule takes text. -/
  | consume (rule : Rule) (found : RuleMatch)
  /-- The rule changes the mode without taking any text. -/
  | shift (rule : Rule) (fresh : stalled = false)
  /-- No rule applies before the offset, or before the end of the line. -/
  | skip (next : Option Nat)

namespace Choice

/-- The rule is chosen if it applies at the place. -/
def offer (stalled : Bool) (c : Cursor) (r : Rule) : Option (Choice stalled) :=
  match r.matchAt c with
  | none => none
  | some found =>
    if found.tokenStop = c.offset then
      if fresh : stalled = false then some (.shift r fresh) else none
    else some (.consume r found)

/-- The earlier of two offsets, one of which may be missing. -/
def earliest : Option Nat → Option Nat → Option Nat
  | some n, some m => some (min n m)
  | some n, none => some n
  | none, m => m

/-- The choice at the place in front of the character `x`, made among rules of which the first has
index `i`, when those before them could apply no earlier than at `next`. -/
def among (stalled : Bool) (c : Cursor) (x : Char) (rest : List Char) :
    (i : Nat) → (next : Option Nat) → List Rule → Lookahead → Choice stalled × Lookahead
  | _, next, [], ahead => (.skip next, ahead)
  | i, next, r :: rs, ahead =>
    match ahead.next i r c with
    | (none, ahead) => among stalled c x rest (i + 1) next rs ahead
    | (some n, ahead) =>
      if n = c.offset then
        match offer stalled c r with
        | some choice => (choice, ahead)
        | none =>
          let (later, ahead) := ahead.search i r (c.past x rest)
          among stalled c x rest (i + 1) (earliest next later) rs ahead
      else among stalled c x rest (i + 1) (earliest next (some n)) rs ahead

end Choice

namespace Grammar

/-- Puts the text in front of the token of a rule, and the token, behind tokens in reverse order. -/
def emit (kind : TokenKind) (found : RuleMatch) (tokens : List Token) : List Token :=
  let tokens :=
    if found.start < found.tokenStart then
      Token.push ⟨found.start, found.tokenStart, .default⟩ tokens
    else tokens
  if found.tokenStart < found.tokenStop then
    Token.push ⟨found.tokenStart, found.tokenStop, kind⟩ tokens
  else tokens

/-- The cursor moved to an offset, or to the end of the line. -/
def advance (c : Cursor) : Option Nat → Cursor
  | some n => c.moveTo n
  | none => c.moveToEnd

theorem length_rest_advance_le (c : Cursor) (n : Option Nat) :
  (advance c n).rest.length ≤ c.rest.length
  := by
  cases n with
  | none => simp [advance, Cursor.rest_moveToEnd]
  | some n => exact Cursor.length_rest_moveTo_le c n

/-- The tokens of the line from the cursor on, behind those found before, in reverse order, and
the state at the end of the line.  In a mode without rules the rest is unclassified. -/
def scan (g : Grammar) (stalled : Bool) (ahead : Lookahead) (state : LineState)
    (tokens : List Token) : Cursor → List Token × LineState
  | ⟨_, _, []⟩ => (tokens, state)
  | c@⟨_, _, x :: rest⟩ =>
    match g.rules? state.mode with
    | none => (Token.push ⟨c.offset, c.moveToEnd.offset, .default⟩ tokens, state)
    | some rules =>
      match Choice.among stalled c x rest 0 none rules (ahead.forMode state.mode rules.length) with
      | (.consume r found, ahead) =>
        g.scan false ahead (g.apply r.action state) (emit r.kind found tokens)
          ((c.past x rest).moveTo found.tokenStop)
      | (.shift r _, ahead) => g.scan true ahead (g.apply r.action state) tokens c
      | (.skip next, ahead) =>
        let d := advance (c.past x rest) next
        g.scan false ahead state (Token.push ⟨c.offset, d.offset, .default⟩ tokens) d
termination_by c => 2 * c.rest.length + (if stalled then 0 else 1)
decreasing_by
  · have := Cursor.length_rest_moveTo_le (c.past x rest) found.tokenStop
    simp only [Cursor.past, List.length_cons] at *
    split <;> simp <;> omega
  · simp_all
  · have := length_rest_advance_le (c.past x rest) next
    simp only [Cursor.past, List.length_cons] at *
    split <;> simp <;> omega

/-- The state after an empty line, on which the first rule that applies changes the mode. -/
def afterEmptyLine (g : Grammar) (state : LineState) : LineState :=
  match g.rules? state.mode with
  | none => state
  | some rules =>
    match rules.find? fun r => (r.matchAt (Cursor.start [])).isSome with
    | none => state
    | some r => g.apply r.action state

/-- The line sorted into tokens by the rules of the grammar alone. -/
def scanLine (g : Grammar) (line : List Char) (state : LineState) : TokenizedLine :=
  match line with
  | [] => ⟨g.id, [], g.afterEmptyLine state⟩
  | _ :: _ =>
    let (tokens, endState) :=
      g.scan false (Lookahead.fresh state.mode 0) state [] (Cursor.start line)
    ⟨g.id, tokens.reverse, endState⟩

end Grammar

end Highlight
