import Highlight.Grammar.Tokenize
import Highlight.Proofs.Lookahead

/-!
# Scanning with a lookahead

The scanner with a lookahead gives the same tokens and the same state as the one that tries every
rule at every place.
-/

namespace Highlight.Grammar

variable {g : Grammar} {stalled : Bool} {state : LineState} {c d : Cursor} {x : Char}
  {rest : List Char} {rules : List Rule} {r : Rule} {m : RuleMatch} {l : Lookahead}

/-- The pieces of a scan put behind earlier tokens in reverse order. -/
def onto (tokens : List Token) (scan : List Token × LineState) : List Token × LineState :=
  (Token.pushAll scan.1 tokens, scan.2)

/-- Tokens can be put onto others one after another. -/
theorem onto_append (ts us tokens : List Token) (s : LineState) :
  onto tokens (ts ++ us, s) = onto (Token.pushAll ts tokens) (us, s)
  := by rw [onto, Token.pushAll_append, onto]

/-- A token is emitted with what is unclassified in front of it. -/
theorem emit_eq (h : m.start = c.offset) (kind : TokenKind) (tokens : List Token) :
  emit kind m tokens = Token.pushAll (m.pieces c kind) tokens
  := by
  rw [RuleMatch.pieces, Token.pushAll_append, emit, h, Token.piece, Token.piece]
  split <;> split <;> rfl

/-- Where no rule applies up to a place, the text up to it is unclassified. -/
theorem plainScan_skip (stalled : Bool) {c d : Cursor} (hrules : g.rules? state.mode = some rules)
    (hle : c ≤ d) (hlt : c.offset < d.offset) (hfirst : Rule.first? stalled c rules = none)
    (hnone : ∀ e, c ≤ e → c.offset < e.offset → e.offset < d.offset → ∀ r ∈ rules,
      r.matchAt e = none) (tokens : List Token) :
  onto tokens (g.plainScan stalled state c) =
    onto (Token.push ⟨c.offset, d.offset, .default⟩ tokens) (g.plainScan false state d)
  := by
  rcases Cursor.eq_or_past_le hle with rfl | ⟨x, rest, hrest, hpast⟩
  · omega
  · have hstep := c.offset_lt_past x rest
    rw [plainScan_past hrest hrules hfirst]
    rcases Nat.lt_or_ge (c.past x rest).offset d.offset with hlt' | hge
    · have hnone' : ∀ e, c.past x rest ≤ e → e.offset < d.offset → ∀ r ∈ rules,
          r.matchAt e = none := by
        intro e he
        apply hnone e ((Cursor.le_past hrest).trans he)
        apply Nat.lt_of_lt_of_le hstep (Cursor.offset_le he)
      have ih := plainScan_skip false hrules hpast hlt'
        (Rule.first?_eq_none (hnone' _ le_rfl hlt')) (fun e he _ => hnone' e he)
        (Token.push ⟨c.offset, (c.past x rest).offset, .default⟩ tokens)
      rw [Token.push_push] at ih
      apply ih
    · obtain rfl : c.past x rest = d := by
        apply Cursor.eq_of_offset_eq le_rfl hpast
        apply Nat.le_antisymm (Cursor.offset_le hpast) hge
      rfl
termination_by c.rest.length
decreasing_by simp [Cursor.past, hrest]

/-- What the lookahead knows about the rules of its mode is so from the place on. -/
def Knows (g : Grammar) (l : Lookahead) (c : Cursor) : Prop :=
  ∀ rules, g.rules? l.mode = some rules → l.Holds rules c

/-- What is known stays right further on. -/
theorem Knows.mono (h : g.Knows l c) (hle : c ≤ d) :
  g.Knows l d
  := by
  intro rules hrules
  apply (h rules hrules).mono hle

/-- What is remembered is right for the mode that is asked for, as it is forgotten with the mode. -/
theorem holds_forMode (h : g.Knows l c) {mode : Nat} (hrules : g.rules? mode = some rules) :
  (l.forMode mode rules.length).mode = mode ∧ (l.forMode mode rules.length).Holds rules c
  := by
  rw [Lookahead.forMode]
  split
  next hl =>
    obtain ⟨rfl, -⟩ := hl
    exact ⟨rfl, h rules hrules⟩
  next => exact ⟨rfl, Lookahead.holds_fresh mode _ rules c⟩

/-- The choice at a place is right, and what the lookahead after it knows is so onward of it. -/
theorem chosen_among {choice : Choice stalled} {l' : Lookahead} (hl : g.Knows l c)
    (hrest : c.rest = x :: rest) (hrules : g.rules? state.mode = some rules)
    (h : Choice.among stalled c x rest 0 none rules (l.forMode state.mode rules.length)
      = (choice, l')) :
  choice.Chosen c x rest none rules ∧ g.Knows l' (Choice.onward stalled c x rest)
  := by
  obtain ⟨hmode, hholds⟩ := holds_forMode hl hrules
  have hfits := Choice.fits_among stalled hrest hholds
  rw [h] at hfits
  use hfits.chosen
  intro rules' hrules'
  rw [hfits.mode, hmode, hrules] at hrules'
  cases hrules'
  apply hfits.holds

/-- The scan advances forward. -/
theorem le_advance (c : Cursor) (next : Option Nat) :
  c ≤ advance c next
  := by
  cases next with
  | none => apply c.le_moveToEnd
  | some n => apply c.le_moveTo

/-- In front of where the scan advances to, no rule has its next place. -/
theorem offset_lt_of_lt_advance {next : Option Nat} (h : c ≤ d)
    (hd : d.offset < (advance c next).offset) :
  ∀ n ∈ next, d.offset < n
  := by
  rintro n ⟨⟩
  apply Cursor.offset_lt_of_lt_moveTo h hd

/-- A scan that remembers next places gives what a plain scan gives, if what it remembers is
right. -/
theorem scan_eq_plainScan (stalled : Bool) (state : LineState) (tokens : List Token)
    (hl : g.Knows l c) :
  g.scan stalled l state tokens c = onto tokens (g.plainScan stalled state c)
  := by
  fun_induction scan g stalled l state tokens c with
  | case1 => rw [plainScan_end rfl, onto, Token.pushAll, List.foldl_nil]
  | case2 stalled l state tokens before offset x rest hrules =>
    rw [plainScan_no_rules rfl hrules]
    rfl
  | case3 stalled l state tokens before offset x rest rules hrules r m l' hamong ih =>
    obtain ⟨⟨hfirst, hstop⟩, hl'⟩ := chosen_among hl rfl hrules hamong
    obtain ⟨-, hm, -⟩ := Rule.first?_eq_some hfirst
    have hmatches := Rule.matches_of_matchAt hm
    rw [ih (hl'.mono ((Choice.onward_le_past _ rfl).trans (Cursor.le_moveTo _ _))),
      plainScan_first rfl hrules hfirst, onto_append, ← emit_eq hmatches.start]
    have hlt : offset < m.tokenStop := by
      obtain ⟨h₁, h₂⟩ := hmatches.offset_le
      apply Nat.lt_of_le_of_ne (h₁.trans h₂) (Ne.symm hstop)
    rw [Cursor.past_moveTo (c := ⟨before, offset, x :: rest⟩) rfl hlt, decide_eq_false hstop]
  | case4 l state tokens before offset x rest rules hrules r l' hamong ih =>
    obtain ⟨⟨m, hfirst, hstop⟩, hl'⟩ := chosen_among hl rfl hrules hamong
    obtain ⟨-, hm, -⟩ := Rule.first?_eq_some hfirst
    rw [ih hl', plainScan_first rfl hrules hfirst, decide_eq_true hstop,
      Cursor.moveTo_of_le hstop.le, (Rule.matches_of_matchAt hm).pieces_eq_nil hstop]
    rfl
  | case5 stalled l state tokens before offset x rest rules hrules next l' hamong d ih =>
    obtain ⟨⟨hfirst, -, hclear⟩, hl'⟩ := chosen_among hl rfl hrules hamong
    have hle := le_advance (Cursor.past ⟨before, offset, x :: rest⟩ x rest) next
    have hpast := Cursor.le_past (c := ⟨before, offset, x :: rest⟩) rfl
    rw [ih (hl'.mono ((Choice.onward_le_past _ rfl).trans hle))]
    symm
    apply plainScan_skip _ hrules (hpast.trans hle) _ hfirst
    · intro e he hlt hlt'
      rcases Cursor.eq_or_past_le he with rfl | ⟨_, _, ⟨⟩, hpast⟩
      · omega
      · intro r hr
        apply hclear r hr e hpast (offset_lt_of_lt_advance hpast hlt')
    · apply Nat.lt_of_lt_of_le (Cursor.offset_lt_past _ x rest) (Cursor.offset_le hle)

/-- Where the mode has not been changed, the first rule that applies is the first one with a
match. -/
theorem map_first?_false (c : Cursor) (rs : List Rule) :
  (Rule.first? false c rs).map Prod.fst = rs.find? fun r => (r.matchAt c).isSome
  := by
  induction rs with
  | nil => rfl
  | cons r rs ih =>
    rw [Rule.first?, List.findSome?_cons, Rule.applies?, List.find?_cons]
    cases r.matchAt c with
    | none => apply ih
    | some m => rfl

/-- If the first rule is read at the place, it is the first that applies. -/
theorem exists_first?_cons (h : (r.matchAt c).isSome) (rs : List Rule) :
  ∃ m, Rule.first? false c (r :: rs) = some (r, m)
  := by
  have hfind : (Rule.first? false c (r :: rs)).map Prod.fst = some r := by
    rw [map_first?_false, List.find?_cons, h]
  obtain ⟨⟨_, m⟩, hfirst, rfl⟩ := Option.map_eq_some_iff.mp hfind
  use m

/-- An empty line is read as the plain scan reads it. -/
theorem afterEmptyLine_eq_plainLine (g : Grammar) (state : LineState) :
  ⟨g.id, [], g.afterEmptyLine state⟩ = g.plainLine [] state
  := by
  rw [plainLine, afterEmptyLine]
  cases hrules : g.rules? state.mode with
  | none => rfl
  | some rules =>
    simp only [Option.bind_some, ← map_first?_false]
    cases Rule.first? false (Cursor.start []) rules with
    | none => rfl
    | some applied => rfl

/-- A line is read as the plain scan reads it. -/
theorem scanLine_eq_plainLine (g : Grammar) (line : List Char) (state : LineState) :
  g.scanLine line state = g.plainLine line state
  := by
  cases line with
  | nil => apply afterEmptyLine_eq_plainLine
  | cons x line =>
    have hl : g.Knows (.fresh state.mode 0) (Cursor.start (x :: line)) :=
      fun rules _ => Lookahead.holds_fresh _ _ rules _
    rw [scanLine, scan_eq_plainScan false state [] hl, plainLine, onto]
    simp only [Token.reverse_pushAll]

end Highlight.Grammar
