import Highlight.Proofs.Scan

/-!
# How a line is tokenized

In a mode with rules a line is scanned.  In a mode that hands lines to another grammar, a line that
the mode does not go on with leaves the mode; any other line goes to that grammar in the state
that it was left in, or stays unclassified if the grammar is not known.
-/

namespace Highlight

/-- The state in which the grammar that the mode hands lines to was left. -/
def LineState.inner (s : LineState) : LineState :=
  s.embedded?.getD root

namespace Grammar

variable {g : Grammar} {lookup : String → Option Grammar} {line : List Char} {s : LineState}
  {e : Embedding}

/-! ### The cases of a line -/

/-- A line is scanned if the mode has rules. -/
theorem tokenizeLine_scanned (lookup : String → Option Grammar) (line : List Char)
    (h : g.embedding? s.mode = none) :
  g.tokenizeLine lookup line s = g.scanLine line s
  := by
  cases s with
  | plain stack =>
    cases stack with
    | nil => rfl
    | cons mode stack =>
      replace h : g.embedding? mode = none := h
      rw [tokenizeLine, tokenizePlain, h]
  | embedding stack inner =>
    replace h : g.embedding? (stack.headD 0) = none := h
    rw [tokenizeLine, h]

/-- A line in which the pattern of the mode does not occur is read in the mode before. -/
theorem tokenizeLine_left (h : g.embedding? s.mode = some e)
    (hcontinues : ¬e.continues.occursIn line) :
  g.tokenizeLine lookup line s = g.tokenizeLine lookup line s.pop
  := by
  cases s with
  | plain stack =>
    cases stack with
    | nil => rfl
    | cons mode stack =>
      replace h : g.embedding? mode = some e := h
      rw [tokenizeLine, tokenizePlain, h]
      apply if_neg hcontinues
  | embedding stack inner =>
    replace h : g.embedding? (stack.headD 0) = some e := h
    rw [tokenizeLine, h]
    apply if_neg hcontinues

/-- A line in which the pattern of the mode occurs is handed to the grammar of the mode, or left
unclassified if there is none. -/
theorem tokenizeLine_continued (h : g.embedding? s.mode = some e)
    (hcontinues : e.continues.occursIn line) :
  g.tokenizeLine lookup line s =
    match lookup e.grammar with
    | some k =>
      let l := k.tokenizeLine lookup line s.inner
      { l with endState := .embedding s.stack l.endState }
    | none => ⟨e.grammar, TokenizedLine.plainTokens line, .embedding s.stack s.inner⟩
  := by
  cases s with
  | plain stack =>
    cases stack with
    | nil => cases h
    | cons mode stack =>
      replace h : g.embedding? mode = some e := h
      rw [tokenizeLine, tokenizePlain, h]
      apply if_pos hcontinues
  | embedding stack inner =>
    replace h : g.embedding? (stack.headD 0) = some e := h
    rw [tokenizeLine, h]
    apply if_pos hcontinues

/-! ### Grammars that get a line one after another -/

/-- What a grammar in a state makes of the line, from one mode and one grammar to the next. -/
inductive Tokenizes (lookup : String → Option Grammar) (line : List Char) :
    Grammar → LineState → TokenizedLine → Prop where
  | scanned {g : Grammar} {s : LineState} (h : g.embedding? s.mode = none) :
    Tokenizes lookup line g s (g.plainLine line s)
  | left {g : Grammar} {s : LineState} {e : Embedding} {l : TokenizedLine}
      (h : g.embedding? s.mode = some e) (hcontinues : ¬e.continues.occursIn line)
      (hl : Tokenizes lookup line g s.pop l) :
    Tokenizes lookup line g s l
  | handed {g k : Grammar} {s : LineState} {e : Embedding} {l : TokenizedLine}
      (h : g.embedding? s.mode = some e) (hcontinues : e.continues.occursIn line)
      (hlookup : lookup e.grammar = some k) (hl : Tokenizes lookup line k s.inner l) :
    Tokenizes lookup line g s { l with endState := .embedding s.stack l.endState }
  | unknown {g : Grammar} {s : LineState} {e : Embedding}
      (h : g.embedding? s.mode = some e) (hcontinues : e.continues.occursIn line)
      (hlookup : lookup e.grammar = none) :
    Tokenizes lookup line g s
      ⟨e.grammar, TokenizedLine.plainTokens line, .embedding s.stack s.inner⟩

/-- One step: what becomes of the line follows from what becomes of it in the state with the
innermost mode left, and in the grammars that it can be handed to. -/
theorem tokenizes_step (g : Grammar) (s : LineState)
    (hpop : ∀ e, g.embedding? s.mode = some e →
      Tokenizes lookup line g s.pop (g.tokenizeLine lookup line s.pop))
    (hinner : ∀ k, Tokenizes lookup line k s.inner (k.tokenizeLine lookup line s.inner)) :
  Tokenizes lookup line g s (g.tokenizeLine lookup line s)
  := by
  cases h : g.embedding? s.mode with
  | none =>
    rw [tokenizeLine_scanned lookup line h, scanLine_eq_plainLine]
    apply Tokenizes.scanned h
  | some e =>
    by_cases hcontinues : e.continues.occursIn line
    · rw [tokenizeLine_continued h hcontinues]
      split
      next k hlookup => apply Tokenizes.handed h hcontinues hlookup (hinner k)
      next hlookup => apply Tokenizes.unknown h hcontinues hlookup
    · rw [tokenizeLine_left h hcontinues]
      apply Tokenizes.left h hcontinues (hpop e h)

/-- In the root state a line is tokenized as it is read. -/
theorem tokenizes_root (g : Grammar) :
  Tokenizes lookup line g .root (g.tokenizeLine lookup line .root)
  := by
  have h : g.embedding? LineState.root.mode = none := rfl
  rw [tokenizeLine_scanned lookup line h, scanLine_eq_plainLine]
  apply Tokenizes.scanned h

/-- In a state that is not inside of another grammar, a line is tokenized as it is read. -/
theorem tokenizes_plain (g : Grammar) (stack : List Nat) :
  Tokenizes lookup line g (.plain stack) (g.tokenizeLine lookup line (.plain stack))
  := by
  induction stack with
  | nil => apply tokenizes_root
  | cons mode stack ih => apply tokenizes_step _ _ (fun _ _ => ih) fun k => tokenizes_root k

/-- The recursion is on the state, of which each embedded part belongs to another grammar. -/
theorem tokenizes_tokenizeLine (lookup : String → Option Grammar) (line : List Char) (g : Grammar)
    (s : LineState) :
  Tokenizes lookup line g s (g.tokenizeLine lookup line s)
  := by
  induction s generalizing g with
  | plain stack => apply tokenizes_plain
  | embedding stack inner ih =>
    apply tokenizes_step _ _ _ fun k => ih k
    intro e _
    apply tokenizes_plain

/-! ### Lines that are scanned -/

/-- A line that no embedding takes is sorted one place after another. -/
theorem tokenizeLine_eq_plainLine (lookup : String → Option Grammar) (line : List Char)
    (h : g.embedding? s.mode = none) :
  g.tokenizeLine lookup line s = g.plainLine line s
  := by rw [tokenizeLine_scanned lookup line h, scanLine_eq_plainLine]

/-- A rule that enters its mode again and again without taking text, each time at another place. -/
theorem tokenizeLine_eq_plainLine_turning :
  let turn : Rule :=
    { name := "turn", pattern := .ofForm .empty, kind := .keyword, action := .push "root" }
  let g : Grammar := { id := "turning", rootRules := [turn] }
  g.embedding? 0 = none ∧
    g.tokenizeLine (fun _ => none) ['a', 'b'] .root = g.plainLine ['a', 'b'] .root
  := by
  intro turn g
  have h : g.embedding? 0 = none := rfl
  exact ⟨h, tokenizeLine_eq_plainLine _ _ h⟩

end Grammar

end Highlight
