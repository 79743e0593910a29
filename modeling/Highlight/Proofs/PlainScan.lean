import Highlight.Grammar.Scan
import Highlight.Proofs.Rule
import Highlight.Proofs.Tokens

/-!
# Scanning one place after another

A scanner that remembers nothing about the places ahead: at each place it tries the rules of the
mode in order, and where none of them applies it leaves one character unclassified.  Its pieces of
unclassified text are joined only when the line is done.
-/

namespace Highlight

namespace Rule

variable {stalled : Bool} {c : Cursor} {r s : Rule} {m : RuleMatch} {rs : List Rule}

/-- The rule with its match at the place, if it applies there.  A rule that takes no text applies
only if the mode has not been changed at the place before. -/
def applies? (stalled : Bool) (c : Cursor) (r : Rule) : Option (Rule × RuleMatch) :=
  match r.matchAt c with
  | none => none
  | some m => if stalled = true ∧ m.tokenStop = c.offset then none else some (r, m)

/-- The first of the rules that applies at the place. -/
def first? (stalled : Bool) (c : Cursor) (rs : List Rule) : Option (Rule × RuleMatch) :=
  rs.findSome? (applies? stalled c)

theorem applies?_eq_none (h : r.matchAt c = none) :
  r.applies? stalled c = none
  := by rw [applies?, h]

/-- A rule that applies is read at the place, and it takes something if nothing was taken just
before. -/
theorem applies?_eq_some (h : r.applies? stalled c = some (s, m)) :
  s = r ∧ r.matchAt c = some m ∧ ¬(stalled = true ∧ m.tokenStop = c.offset)
  := by
  rw [applies?] at h
  split at h
  next => cases h
  next m' hm =>
    split at h
    next => cases h
    next hstalled =>
      cases h
      exact ⟨rfl, hm, hstalled⟩

/-- The first rule that applies is one of the rules, is read at the place, and takes something if
nothing was taken just before. -/
theorem first?_eq_some (h : first? stalled c rs = some (r, m)) :
  r ∈ rs ∧ r.matchAt c = some m ∧ ¬(stalled = true ∧ m.tokenStop = c.offset)
  := by
  obtain ⟨s, hs, happlies⟩ := List.exists_of_findSome?_eq_some h
  obtain ⟨rfl, hm⟩ := applies?_eq_some happlies
  exact ⟨hs, hm⟩

/-- No rule applies if none is read at the place. -/
theorem first?_eq_none (h : ∀ r ∈ rs, r.matchAt c = none) :
  first? stalled c rs = none
  := by
  rw [first?, List.findSome?_eq_none_iff]
  intro r hr
  apply applies?_eq_none (h r hr)

/-- The token of a match starts and ends at places of the line, from the place tried on. -/
theorem Matches.exists_token (h : r.Matches c m) :
  ∃ a b, c ≤ a ∧ a ≤ b ∧ m.tokenStart = a.offset ∧ m.tokenStop = b.offset ∧
    c.moveTo m.tokenStop = b
  := by
  obtain ⟨a, b, ha, hab, hstart, hstop⟩ := h.token
  refine ⟨a, b, ha, hab, hstart, hstop, ?_⟩
  rw [hstop]
  apply Cursor.moveTo_offset (ha.trans hab)

/-- The token does not start before the place tried, and does not end before it starts. -/
theorem Matches.offset_le (h : r.Matches c m) :
  c.offset ≤ m.tokenStart ∧ m.tokenStart ≤ m.tokenStop
  := by
  obtain ⟨a, b, ha, hab, hstart, hstop⟩ := h.token
  rw [hstart, hstop]
  exact ⟨Cursor.offset_le ha, Cursor.offset_le hab⟩

/-- A rule that applies takes text, or takes the one turn without text that a place has. -/
theorem Matches.decreases (h : r.Matches c m)
    (hstalled : ¬(stalled = true ∧ m.tokenStop = c.offset)) {x : Char} {rest : List Char}
    (hrest : c.rest = x :: rest) :
  2 * (c.moveTo m.tokenStop).rest.length + (if decide (m.tokenStop = c.offset) then 0 else 1)
    < 2 * c.rest.length + (if stalled then 0 else 1)
  := by
  obtain ⟨hstart, hstop⟩ := h.offset_le
  by_cases hempty : m.tokenStop = c.offset
  · obtain rfl : stalled = false := by simpa [hempty] using hstalled
    rw [hempty, Cursor.moveTo_of_le le_rfl]
    simp
  · have hmove := Cursor.past_moveTo hrest (n := m.tokenStop) (by omega)
    have hle := Cursor.length_rest_le (Cursor.le_moveTo (c.past x rest) m.tokenStop)
    simp only [Cursor.past] at hle hmove
    rw [hmove, hrest, List.length_cons]
    simp only [hempty, decide_false]
    split <;> simp <;> omega

end Rule

/-- A piece of a line, unless it is empty. -/
def Token.piece (start stop : Nat) (kind : TokenKind) : List Token :=
  if start < stop then [⟨start, stop, kind⟩] else []

/-- What a rule of a kind takes at a place: the text in front of its token, and its token. -/
def RuleMatch.pieces (m : RuleMatch) (c : Cursor) (kind : TokenKind) : List Token :=
  Token.piece c.offset m.tokenStart .default ++ Token.piece m.tokenStart m.tokenStop kind

/-- A rule that takes no text has no pieces. -/
theorem Rule.Matches.pieces_eq_nil {r : Rule} {c : Cursor} {m : RuleMatch} (h : r.Matches c m)
    (hstop : m.tokenStop = c.offset) (kind : TokenKind) :
  m.pieces c kind = []
  := by
  obtain ⟨hstart, hle⟩ := h.offset_le
  rw [RuleMatch.pieces, Token.piece, Token.piece, if_neg (by omega), if_neg (by omega)]
  rfl

namespace Grammar

variable {g : Grammar} {stalled : Bool} {state : LineState} {c : Cursor} {x : Char}
  {rest : List Char} {rules : List Rule} {r : Rule} {m : RuleMatch}

/-- The pieces of the line from the place on, and the state at the end of the line, where `stalled`
says that the mode has been changed at the place without taking any text. -/
def plainScan (g : Grammar) (stalled : Bool) (state : LineState) (c : Cursor) :
    List Token × LineState :=
  match _hrest : c.rest with
  | [] => ([], state)
  | x :: rest =>
    match g.rules? state.mode with
    | none => ([⟨c.offset, c.moveToEnd.offset, .default⟩], state)
    | some rules =>
      match _hfirst : Rule.first? stalled c rules with
      | some (r, m) =>
        let later :=
          g.plainScan (m.tokenStop = c.offset) (g.apply r.action state) (c.moveTo m.tokenStop)
        (m.pieces c r.kind ++ later.1, later.2)
      | none =>
        let later := g.plainScan false state (c.past x rest)
        (⟨c.offset, (c.past x rest).offset, .default⟩ :: later.1, later.2)
termination_by 2 * c.rest.length + (if stalled then 0 else 1)
decreasing_by
  · obtain ⟨-, hm, hstalled⟩ := Rule.first?_eq_some _hfirst
    exact (Rule.matches_of_matchAt hm).decreases hstalled _hrest
  · rw [_hrest]
    simp only [Cursor.past, List.length_cons, if_false]
    split <;> omega

/-- The line sorted into tokens one place after another.  On the empty line the first rule that
applies changes the mode. -/
def plainLine (g : Grammar) (line : List Char) (state : LineState) : TokenizedLine :=
  match line with
  | [] =>
    match (g.rules? state.mode).bind (Rule.first? false (Cursor.start [])) with
    | some (r, _) => ⟨g.id, [], g.apply r.action state⟩
    | none => ⟨g.id, [], state⟩
  | _ :: _ =>
    let scan := g.plainScan false state (Cursor.start line)
    ⟨g.id, Token.joined scan.1, scan.2⟩

/-! ### The cases of a scan -/

theorem plainScan_end (hrest : c.rest = []) :
  g.plainScan stalled state c = ([], state)
  := by
  rw [plainScan]
  split
  next => rfl
  next h =>
    rw [hrest] at h
    cases h

theorem plainScan_no_rules (hrest : c.rest = x :: rest) (hrules : g.rules? state.mode = none) :
  g.plainScan stalled state c = ([⟨c.offset, c.moveToEnd.offset, .default⟩], state)
  := by
  rw [plainScan]
  split
  next h =>
    rw [hrest] at h
    cases h
  next => rw [hrules]

/-- If a rule applies, its pieces come first, and the scan goes on behind the token in the mode that
the rule leads to. -/
theorem plainScan_first (hrest : c.rest = x :: rest) (hrules : g.rules? state.mode = some rules)
    (hfirst : Rule.first? stalled c rules = some (r, m)) :
  g.plainScan stalled state c =
    let later :=
      g.plainScan (m.tokenStop = c.offset) (g.apply r.action state) (c.moveTo m.tokenStop)
    (m.pieces c r.kind ++ later.1, later.2)
  := by
  rw [plainScan]
  split
  next h =>
    rw [hrest] at h
    cases h
  next =>
    simp only [hrules]
    split
    next h =>
      rw [hfirst] at h
      cases h
      rfl
    next h =>
      rw [hfirst] at h
      cases h

/-- If no rule applies, one character stays unclassified, and the scan goes on behind it. -/
theorem plainScan_past (hrest : c.rest = x :: rest) (hrules : g.rules? state.mode = some rules)
    (hfirst : Rule.first? stalled c rules = none) :
  g.plainScan stalled state c =
    let later := g.plainScan false state (c.past x rest)
    (⟨c.offset, (c.past x rest).offset, .default⟩ :: later.1, later.2)
  := by
  rw [plainScan]
  split
  next h =>
    rw [hrest] at h
    cases h
  next h =>
    rw [hrest] at h
    cases h
    simp only [hrules]
    split
    next h =>
      rw [hfirst] at h
      cases h
    next => rfl

/-! ### States along a scan -/

variable {P : LineState → Prop}

/-- The action of every rule of the mode that applies behind the place keeps the property. -/
def Keeps (g : Grammar) (P : LineState → Prop) (c : Cursor) : Prop :=
  ∀ s rules, P s → g.rules? s.mode = some rules → ∀ r ∈ rules, ∀ d, c ≤ d →
    (r.matchAt d).isSome → P (g.apply r.action s)

theorem Keeps.mono {d : Cursor} (h : g.Keeps P c) (hle : c ≤ d) :
  g.Keeps P d
  := by
  intro s rules hs hrules r hr e he
  apply h s rules hs hrules r hr e (hle.trans he)

/-- What is kept by the rules holds after the first one that applies. -/
theorem Keeps.first (h : g.Keeps P c) (hstate : P state) (hrules : g.rules? state.mode = some rules)
    (hfirst : Rule.first? stalled c rules = some (r, m)) :
  P (g.apply r.action state)
  := by
  obtain ⟨hr, hm, -⟩ := Rule.first?_eq_some hfirst
  apply h state rules hstate hrules r hr c le_rfl
  apply Option.isSome_of_eq_some hm

/-- What the actions of the rules keep is so at the end of the line. -/
theorem Keeps.plainScan (h : g.Keeps P c) (hstate : P state) :
  P (g.plainScan stalled state c).2
  := by
  fun_induction Grammar.plainScan g stalled state c with
  | case1 => apply hstate
  | case2 => apply hstate
  | case3 stalled state c x rest hrest rules hrules r m hfirst later ih =>
    apply ih (h.mono (c.le_moveTo m.tokenStop)) (h.first hstate hrules hfirst)
  | case4 stalled state c x rest hrest rules hrules hfirst later ih =>
    apply ih (h.mono (Cursor.le_past hrest)) hstate

/-- What is kept by the rules from the start of a line holds at its end. -/
theorem Keeps.plainLine {line : List Char} (h : g.Keeps P (Cursor.start line)) (hstate : P state) :
  P (g.plainLine line state).endState
  := by
  cases line with
  | nil =>
    rw [Grammar.plainLine]
    split
    next r m hfirst =>
      obtain ⟨rules, hrules, hfirst⟩ := Option.bind_eq_some_iff.mp hfirst
      apply h.first hstate hrules hfirst
    next => apply hstate
  | cons x line =>
    rw [Grammar.plainLine]
    apply h.plainScan hstate

end Grammar

end Highlight
