import Highlight.Grammar.Scan

/-!
# Tokenizing lines

A line that a mode hands to another grammar is tokenized by that grammar, from the state that it
was left in; a line that the mode does not continue with leaves the mode first.  A grammar
that is not known leaves its lines unclassified.

The recursion follows the state: each embedded state belongs to one grammar more, and a
grammar that starts from the root is in a mode with rules.
-/

namespace Highlight.Grammar

/-- The line tokenized by the grammar that an embedding names, from the root of that grammar. -/
def enter (lookup : String → Option Grammar) (line : List Char) (stack : List Nat)
    (e : Embedding) : TokenizedLine :=
  match lookup e.grammar with
  | some h =>
    let inner := h.scanLine line .root
    { inner with endState := .embedding stack inner.endState }
  | none => ⟨e.grammar, TokenizedLine.plainTokens line, .embedding stack .root⟩

/-- The line tokenized from a state in which no other grammar has had a line yet. -/
def tokenizePlain (g : Grammar) (lookup : String → Option Grammar) (line : List Char) :
    List Nat → TokenizedLine
  | [] => g.scanLine line .root
  | mode :: stack =>
    match g.embedding? mode with
    | none => g.scanLine line (.plain (mode :: stack))
    | some e =>
      if e.continues.occursIn line then enter lookup line (mode :: stack) e
      else tokenizePlain g lookup line stack

/-- The line tokenized from a state.  The other grammars are found by `lookup`. -/
def tokenizeLine (g : Grammar) (lookup : String → Option Grammar) (line : List Char) :
    LineState → TokenizedLine
  | .plain stack => g.tokenizePlain lookup line stack
  | .embedding stack inner =>
    match g.embedding? (stack.headD 0) with
    | none => g.scanLine line (.embedding stack inner)
    | some e =>
      if e.continues.occursIn line then
        match lookup e.grammar with
        | some h =>
          let inner := tokenizeLine h lookup line inner
          { inner with endState := .embedding stack inner.endState }
        | none => ⟨e.grammar, TokenizedLine.plainTokens line, .embedding stack inner⟩
      else g.tokenizePlain lookup line stack.tail

/-- The lines tokenized one after another, each from the state that the line before it left. -/
def tokenizeLines (g : Grammar) (lookup : String → Option Grammar) :
    LineState → List (List Char) → List TokenizedLine
  | _, [] => []
  | state, line :: lines =>
    let l := g.tokenizeLine lookup line state
    l :: g.tokenizeLines lookup l.endState lines

end Highlight.Grammar
