import Highlight.Proofs.Tokenize

/-!
# Tokens partition the line

Whatever rules a grammar has, whatever grammars it hands lines to and whatever state a line starts
in, the tokens of the line cover it without gaps.
-/

namespace Highlight

namespace Token

/-- The tokens cut the line into pieces, of which no two unclassified ones follow each other. -/
structure Partition (line : List Char) (ts : List Token) : Prop where
  /-- Only the empty line has no tokens. -/
  eq_nil : ts = [] ↔ line = []
  start_lt_stop : ∀ t ∈ ts, t.start < t.stop
  /-- The first token starts at the start of the line. -/
  head : ∀ t ∈ ts.head?, t.start = 0
  /-- Every other token starts where the one before it ends. -/
  meet : ts.IsChain fun t u => t.stop = u.start
  /-- The last token ends at the end of the line. -/
  getLast : ∀ t ∈ ts.getLast?, t.stop = Text.size line
  boundary : ∀ t ∈ ts, Text.IsBoundary line t.start ∧ Text.IsBoundary line t.stop
  alternate : ts.IsChain fun t u => ¬(t.kind = .default ∧ u.kind = .default)

/-- The tokens cover the line, and no unclassified ones among them could be joined. -/
structure Covers (line : List Char) (ts : List Token) : Prop where
  covered : (Cursor.start line).CoveredBy ts (Cursor.start line).moveToEnd
  apart : Apart ts

variable {line : List Char} {ts : List Token}

/-- Tokens that cover a line one after another divide it up. -/
theorem Covers.partition (h : Covers line ts) :
  Partition line ts
  where
  eq_nil := by
    constructor
    · rintro rfl
      have hend : Cursor.start line = (Cursor.start line).moveToEnd := h.covered
      have hrest := (Cursor.start line).rest_moveToEnd
      rw [← hend] at hrest
      apply hrest
    · rintro rfl
      have hcovered := h.covered
      cases ts with
      | nil => rfl
      | cons t ts =>
        obtain ⟨e, -, hlt, -, -, h⟩ := hcovered
        have := Cursor.offset_le h.le
        rw [Cursor.moveToEnd_of_rest_nil rfl] at this
        omega
  start_lt_stop := by
    intro t ht
    obtain ⟨a, b, -, -, hlt, hstart, hstop⟩ := h.covered.exists_ends ht
    rw [hstart, hstop]
    apply hlt
  head := h.covered.start_head
  meet := h.covered.meet
  getLast := by
    rw [← Cursor.offset_moveToEnd_start]
    apply h.covered.stop_getLast
  boundary := by
    intro t ht
    obtain ⟨a, b, ha, hab, -, hstart, hstop⟩ := h.covered.exists_ends ht
    rw [hstart, hstop]
    constructor
    · apply Cursor.isBoundary_of_start_le ha
    · apply Cursor.isBoundary_of_start_le (ha.trans hab)
  alternate := h.apart.alternate h.covered.meet

/-- The texts of tokens that cover a line make up the line. -/
theorem Covers.text (h : Covers line ts) :
  ts.flatMap (·.text line) = line
  := by
  have htext := h.covered.text le_rfl
  rw [Cursor.rest_moveToEnd, List.append_nil] at htext
  apply htext

/-- A place is in one of the tokens exactly if it is in the line. -/
theorem Covers.find?_covers (h : Covers line ts) (n : Nat) :
  (ts.find? (·.covers n)).isSome ↔ n < Text.size line
  := by
  rw [h.covered.find?_covers, Cursor.offset_moveToEnd_start]
  simp [Cursor.start]

end Token

namespace Grammar

variable {g : Grammar} {c : Cursor} {r : Rule} {m : RuleMatch}

/-- What a rule reads is covered by the token and by what is in front of it. -/
theorem coveredBy_pieces (h : r.Matches c m) (kind : TokenKind) :
  c.CoveredBy (m.pieces c kind) (c.moveTo m.tokenStop)
  := by
  obtain ⟨a, b, ha, hab, hstart, hstop, hmove⟩ := h.exists_token
  rw [RuleMatch.pieces, hmove, hstart, hstop]
  apply Cursor.CoveredBy.append (Cursor.CoveredBy.piece ha .default)
  apply Cursor.CoveredBy.piece hab

/-- The pieces of a scan cover the line from its place on. -/
theorem coveredBy_plainScan (g : Grammar) (stalled : Bool) (state : LineState) (c : Cursor) :
  c.CoveredBy (g.plainScan stalled state c).1 c.moveToEnd
  := by
  fun_induction plainScan g stalled state c with
  | case1 stalled state c hrest =>
    rw [Cursor.moveToEnd_of_rest_nil hrest]
    rfl
  | case2 stalled state c x rest hrest hrules =>
    apply Cursor.CoveredBy.single c.le_moveToEnd
    rw [Cursor.past_moveToEnd hrest]
    apply Nat.lt_of_lt_of_le (c.offset_lt_past x rest) (Cursor.offset_le (Cursor.le_moveToEnd _))
  | case3 stalled state c x rest hrest rules hrules r m hfirst later ih =>
    obtain ⟨-, hm, -⟩ := Rule.first?_eq_some hfirst
    rw [Cursor.moveToEnd_of_le (c.le_moveTo m.tokenStop)] at ih
    apply Cursor.CoveredBy.append _ ih
    apply coveredBy_pieces (Rule.matches_of_matchAt hm)
  | case4 stalled state c x rest hrest rules hrules hfirst later ih =>
    rw [← Cursor.past_moveToEnd hrest] at ih
    apply Cursor.CoveredBy.append (Cursor.CoveredBy.single _ _ _) ih
    · apply Cursor.le_past hrest
    · apply Cursor.offset_lt_past

/-- A line that is read by rules is covered by its tokens. -/
theorem covers_plainLine (g : Grammar) (line : List Char) (state : LineState) :
  Token.Covers line (g.plainLine line state).tokens
  := by
  cases line with
  | nil =>
    have htokens : (g.plainLine [] state).tokens = [] := by
      rw [plainLine]
      split <;> rfl
    rw [htokens]
    exact ⟨rfl, .nil⟩
  | cons x line =>
    rw [plainLine]
    constructor
    · apply Cursor.CoveredBy.joined (g.coveredBy_plainScan false state _)
    · apply Token.apart_joined

/-- A line without classification is covered by its only token, if it is not empty. -/
theorem covers_plainTokens (line : List Char) :
  Token.Covers line (TokenizedLine.plainTokens line)
  := by
  rw [TokenizedLine.plainTokens]
  split
  next hline =>
    subst hline
    exact ⟨rfl, .nil⟩
  next hline =>
    constructor
    · rw [← Cursor.offset_moveToEnd_start]
      apply Cursor.CoveredBy.single (Cursor.le_moveToEnd _)
      rw [Cursor.offset_moveToEnd_start]
      apply Nat.pos_of_ne_zero
      intro hsize
      apply hline (Text.eq_nil_of_size_eq_zero hsize)
    · apply List.IsChain.singleton

/-- However a line is read, it is covered by its tokens. -/
theorem Tokenizes.covers {lookup : String → Option Grammar} {line : List Char} {s : LineState}
    {l : TokenizedLine} (h : Tokenizes lookup line g s l) :
  Token.Covers line l.tokens
  := by
  induction h with
  | scanned => apply covers_plainLine
  | left _ _ _ ih => apply ih
  | handed _ _ _ _ ih => apply ih
  | unknown => apply covers_plainTokens

/-- The tokens of a line partition it: their texts make up the line, and every byte of the line
belongs to one of them. -/
theorem partition_tokenizeLine (lookup : String → Option Grammar) (line : List Char) (g : Grammar)
    (state : LineState) :
  let l := g.tokenizeLine lookup line state
  Token.Partition line l.tokens ∧ l.tokens.flatMap (·.text line) = line ∧
    ∀ n, (l.kindAt n).isSome ↔ n < Text.size line
  := by
  intro l
  have hcovers : Token.Covers line l.tokens :=
    (tokenizes_tokenizeLine lookup line g state).covers
  use hcovers.partition, hcovers.text
  intro n
  rw [TokenizedLine.kindAt, Option.isSome_map]
  apply hcovers.find?_covers

end Grammar

end Highlight
