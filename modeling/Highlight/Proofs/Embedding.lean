import Highlight.Proofs.Tokenize
import Highlight.Registry

/-!
# Lines of embedded grammars

As long as a mode goes on, the grammar that it hands lines to makes of them what it would make of
them on its own, and the modes outside of it stay as they are.  The line that ends the mode is
tokenized as if the mode had never been entered.
-/

namespace Highlight.Grammar

variable {g k : Grammar} {lookup : String → Option Grammar} {s : LineState} {e : Embedding}
  {lines : List (List Char)}

/-- The embedded grammar starts each line in the state in which the line before left it. -/
theorem tokenizeLines_handed (h : g.embedding? s.mode = some e)
    (hlookup : lookup e.grammar = some k) (hlines : ∀ line ∈ lines, e.continues.occursIn line) :
  g.tokenizeLines lookup s lines =
    (k.tokenizeLines lookup s.inner lines).map fun l =>
      { l with endState := .embedding s.stack l.endState }
  := by
  induction lines generalizing s with
  | nil => rfl
  | cons line lines ih =>
    obtain ⟨hline, hrest⟩ := List.forall_mem_cons.mp hlines
    have hstep : g.tokenizeLine lookup line s = _ := tokenizeLine_continued h hline
    rw [hlookup] at hstep
    rw [tokenizeLines, hstep, tokenizeLines, List.map_cons]
    congr 1
    -- The mode in force depends on the stack only, which the line has not changed.
    apply ih (s := .embedding s.stack _) h hrest

/-- A grammar that is not known leaves lines unclassified and never comes to a state. -/
theorem tokenizeLines_unknown (h : g.embedding? s.mode = some e)
    (hlookup : lookup e.grammar = none) (hlines : ∀ line ∈ lines, e.continues.occursIn line) :
  g.tokenizeLines lookup s lines =
    lines.map fun line =>
      ⟨e.grammar, TokenizedLine.plainTokens line, .embedding s.stack s.inner⟩
  := by
  induction lines generalizing s with
  | nil => rfl
  | cons line lines ih =>
    obtain ⟨hline, hrest⟩ := List.forall_mem_cons.mp hlines
    have hstep : g.tokenizeLine lookup line s = _ := tokenizeLine_continued h hline
    rw [hlookup] at hstep
    rw [tokenizeLines, hstep, List.map_cons]
    congr 1
    apply ih (s := .embedding s.stack s.inner) h hrest

/-- In a mode that hands lines to another grammar, lines that the mode goes on with come out as the
other grammar tokenizes them by itself, from the root if it has had no line before; its state is
kept beside the modes of the outer grammar.  A line that the mode does not go on with is tokenized
from the state without the mode.  Lines of a grammar that is not known stay unclassified. -/
theorem tokenizeLines_of_embedding (r : Registry) (g : Grammar) (s : LineState) (e : Embedding)
    (h : g.embedding? s.mode = some e) :
  (∀ k, r.get? e.grammar = some k → ∀ lines, (∀ line ∈ lines, e.continues.occursIn line) →
    g.tokenizeLines r.get? s lines =
      (k.tokenizeLines r.get? (s.embedded?.getD .root) lines).map fun l =>
        { l with endState := .embedding s.stack l.endState }) ∧
  (∀ line, ¬e.continues.occursIn line →
    g.tokenizeLine r.get? line s = g.tokenizeLine r.get? line (.plain s.stack.tail)) ∧
  (r.get? e.grammar = none → ∀ lines, (∀ line ∈ lines, e.continues.occursIn line) →
    g.tokenizeLines r.get? s lines = lines.map fun line =>
      { grammar := e.grammar
        tokens := if line = [] then [] else [⟨0, Text.size line, .default⟩]
        endState := .embedding s.stack (s.embedded?.getD .root) })
  := by
  refine ⟨?_, ?_, ?_⟩
  · intro k hk lines hlines
    apply tokenizeLines_handed h hk hlines
  · intro line hline
    apply tokenizeLine_left h hline
  · intro hnone lines hlines
    apply tokenizeLines_unknown h hnone hlines

/-- An embedded grammar that goes two modes deep on two lines with a space.  A line without one goes
back to the outer grammar. -/
theorem tokenizeLines_of_embedding_deep :
  let enter (name : String) (c : Char) (mode : String) : Rule :=
    { name, pattern := .ofForm (.char c), kind := .keyword, action := .push mode }
  let inner : Grammar :=
    { id := "inner", rootRules := [enter "bracket" '(' "text"],
      others := [⟨"text", .rules [enter "quote" '"' "root"]⟩] }
  let e : Embedding := ⟨"inner", .ofForm (.set .space)⟩
  let outer : Grammar := { id := "outer", others := [⟨"block", .embedded e⟩] }
  let r := Registry.empty.insert inner
  let lines := [[' ', 'a', '('], [' ', '(', '"']]
  outer.embedding? 1 = some e ∧ r.get? "inner" = some inner ∧
    (∀ line ∈ lines, e.continues.occursIn line) ∧
    outer.tokenizeLines r.get? (.plain [1]) lines =
      [⟨"inner", [⟨0, 2, .default⟩, ⟨2, 3, .keyword⟩], .embedding [1] (.plain [1])⟩,
        ⟨"inner", [⟨0, 2, .default⟩, ⟨2, 3, .keyword⟩], .embedding [1] (.plain [0, 1])⟩] ∧
    ¬e.continues.occursIn ['a', '('] ∧
    outer.tokenizeLine r.get? ['a', '('] (.plain [1]) =
      ⟨"outer", [⟨0, 2, .default⟩], .plain []⟩ ∧
    outer.tokenizeLines Registry.empty.get? (.plain [1]) lines =
      [⟨"inner", [⟨0, 3, .default⟩], .embedding [1] .root⟩,
        ⟨"inner", [⟨0, 3, .default⟩], .embedding [1] .root⟩]
  := by
  intro enter inner e outer r lines
  have h : outer.embedding? 1 = some e := rfl
  have hinner : r.get? "inner" = some inner := rfl
  have hlines : ∀ line ∈ lines, e.continues.occursIn line := by decide
  have hback : ¬e.continues.occursIn ['a', '('] := by decide
  refine ⟨h, hinner, hlines, ?_, hback, ?_, ?_⟩
  · rw [(tokenizeLines_of_embedding r outer (.plain [1]) e h).1 inner hinner lines hlines]
    decide +kernel
  · rw [(tokenizeLines_of_embedding r outer (.plain [1]) e h).2.1 _ hback]
    decide +kernel
  · rw [(tokenizeLines_of_embedding .empty outer (.plain [1]) e h).2.2 rfl lines hlines]
    decide +kernel

end Highlight.Grammar
