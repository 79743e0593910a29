import Highlight.Proofs.Tokenize
import Highlight.Proofs.Turns
import Highlight.Registry

/-!
# Bounds on a line

A line goes through a chain of grammars, each of which leaves some of its modes and then scans the
line or hands it to the next one.  However the grammars hand lines to each other, the chain is no
longer than the state is deep, and the state grows by one grammar at most.
-/

namespace Highlight

namespace LineState

/-- The number of grammars that a state holds embedded in each other. -/
def nest : LineState → Nat
  | plain _ => 0
  | embedding _ inner => inner.nest + 1

/-- The number of grammars that a line can come to from the state, after the first one.  A grammar
that starts from the root scans the line. -/
def reach : LineState → Nat
  | plain [] => 0
  | plain (_ :: _) => 1
  | embedding _ inner => inner.reach + 1

variable {s : LineState}

/-- A state reaches at least as deep as it is nested. -/
theorem nest_le_reach (s : LineState) :
  s.nest ≤ s.reach
  := by
  induction s with
  | plain stack => apply Nat.zero_le
  | embedding stack inner ih => apply Nat.succ_le_succ ih

theorem reach_le (s : LineState) :
  s.reach ≤ s.nest + 1
  := by
  induction s with
  | plain stack =>
    cases stack with
    | nil => apply Nat.zero_le
    | cons => apply le_rfl
  | embedding stack inner ih => apply Nat.succ_le_succ ih

/-- Leaving a mode does not reach deeper. -/
theorem reach_pop_le (h : s.stack ≠ []) :
  s.pop.reach ≤ s.reach
  := by
  have hpop : s.pop.reach ≤ 1 := s.pop.reach_le
  apply hpop.trans
  cases s with
  | plain stack =>
    cases stack with
    | nil => exact absurd rfl h
    | cons => apply le_rfl
  | embedding stack inner => apply Nat.succ_le_succ (Nat.zero_le _)

/-- The state inside of another one reaches less deep. -/
theorem reach_inner_lt (h : s.stack ≠ []) :
  s.inner.reach < s.reach
  := by
  cases s with
  | plain stack =>
    cases stack with
    | nil => exact absurd rfl h
    | cons => apply Nat.zero_lt_one
  | embedding stack inner => apply Nat.lt_succ_self

end LineState

namespace Grammar

variable {g : Grammar} {lookup : String → Option Grammar} {line : List Char} {s : LineState}
  {l l' : TokenizedLine} {ts us : List Turn}

/-! ### Lines that are scanned -/

/-- The rule that changes the mode on an empty line. -/
def emptyRule? (g : Grammar) (s : LineState) : Option Rule :=
  (g.rules? s.mode).bind fun rules => rules.find? fun r => (r.matchAt (Cursor.start [])).isSome

/-- An empty line has the effect of its rule, if there is one. -/
theorem afterEmptyLine_of_emptyRule? (g : Grammar) (s : LineState) :
  g.afterEmptyLine s = (g.emptyRule? s).elim s fun r => g.apply r.action s
  := by
  rw [afterEmptyLine, emptyRule?]
  cases g.rules? s.mode with
  | none => rfl
  | some rules =>
    simp only [Option.bind_some]
    cases rules.find? fun r => (r.matchAt (Cursor.start [])).isSome <;> rfl

/-- The turns in which a grammar scans a line, and what comes of it. -/
inductive ScansLine (g : Grammar) : List Char → LineState → List Turn → TokenizedLine → Prop where
  | empty {s : LineState} :
    ScansLine g [] s ((g.emptyRule? s).toList.map (.shift 0)) ⟨g.id, [], g.afterEmptyLine s⟩
  | text {x : Char} {line : List Char} {s : LineState} {ts : List Turn}
      {result : List Token × LineState} (h : Scans g (.start (x :: line) s) ts result) :
    ScansLine g (x :: line) s ts ⟨g.id, result.1.reverse, result.2⟩

/-- Each line is scanned in some turns. -/
theorem exists_scansLine (g : Grammar) (line : List Char) (s : LineState) :
  ∃ ts, ScansLine g line s ts (g.scanLine line s)
  := by
  cases line with
  | nil => exact ⟨_, .empty⟩
  | cons x line =>
    obtain ⟨ts, hts⟩ := exists_scans g (.start (x :: line) s)
    exact ⟨ts, .text hts⟩

/-- A line is scanned in one way only. -/
theorem ScansLine.unique (h : ScansLine g line s ts l) (h' : ScansLine g line s us l') :
  ts = us ∧ l = l'
  := by
  cases h with
  | empty =>
    cases h'
    exact ⟨rfl, rfl⟩
  | text h =>
    cases h' with
    | text h' =>
      obtain ⟨rfl, rfl⟩ := h.unique h'
      exact ⟨rfl, rfl⟩

/-- At each place of the line the mode is changed at most once without taking text, and text is
taken at most once. -/
theorem ScansLine.pairwise (h : ScansLine g line s ts l) :
  (ts.filterMap Turn.shift?).Pairwise (· < ·) ∧ (ts.filterMap Turn.consume?).Pairwise (· < ·)
  := by
  cases h with
  | empty =>
    cases g.emptyRule? s with
    | none => exact ⟨.nil, .nil⟩
    | some r => exact ⟨List.pairwise_singleton _ _, .nil⟩
  | text h => exact ⟨h.pairwise_shift?, h.pairwise_consume?⟩

/-- A line that is scanned makes the stack deeper by two modes for each of its characters at
most. -/
theorem ScansLine.depth_le (h : ScansLine g line s ts l) :
  l.endState.depth ≤ s.depth + max 1 (2 * line.length)
  := by
  cases h with
  | empty =>
    rw [afterEmptyLine_of_emptyRule?]
    cases g.emptyRule? s with
    | none => apply Nat.le_add_right
    | some r => apply depth_apply_le
  | text h =>
    apply h.depth_le.trans
    apply Nat.add_le_add_left (Nat.le_max_right _ _)

/-- A change of the mode drops the state of the embedded grammar. -/
theorem nest_apply_le (g : Grammar) (a : Action) (s : LineState) :
  (g.apply a s).nest ≤ s.nest
  := by
  cases a with
  | stay => apply le_rfl
  | push target =>
    rw [apply]
    split
    next => apply Nat.zero_le
    next => apply le_rfl
  | pop => apply Nat.zero_le

/-- A line that is read by rules does not nest the state deeper. -/
theorem nest_plainLine_le (g : Grammar) (line : List Char) (s : LineState) :
  (g.plainLine line s).endState.nest ≤ s.nest
  := by
  have hkeeps : g.Keeps (fun t => t.nest ≤ s.nest) (Cursor.start line) := by
    intro t rules ht _ r _ d _ _
    apply (g.nest_apply_le r.action t).trans ht
  apply hkeeps.plainLine le_rfl

/-! ### The grammars that a line goes through -/

/-- What a grammar does with a line first. -/
inductive Route where
  | scan
  /-- The innermost mode is left. -/
  | leave
  /-- The line is handed to another grammar. -/
  | hand (grammar : Grammar)
  /-- The line is for a grammar that is not known. -/
  | unknown (id : String)

/-- What the grammar does with the line first in a state. -/
def route (g : Grammar) (lookup : String → Option Grammar) (line : List Char) (s : LineState) :
    Route :=
  match g.embedding? s.mode with
  | none => .scan
  | some e =>
    if e.continues.occursIn line then
      match lookup e.grammar with
      | some k => .hand k
      | none => .unknown e.grammar
    else .leave

/-- In the root mode a line is scanned. -/
theorem stack_ne_nil (h : g.route lookup line s ≠ .scan) :
  s.stack ≠ []
  := by
  intro hstack
  apply h
  rw [route, LineState.mode, hstack]
  rfl

/-- What one grammar does with a line. -/
structure Pass where
  grammar : Grammar
  /-- The state in which the grammar gets the line. -/
  state : LineState
  /-- The number of modes that the grammar leaves before it scans the line or hands it on. -/
  left : Nat
  /-- The turns of the scan. -/
  turns : List Turn

/-- The grammar in a state gets the line and makes it into tokens, in passes of which each one is
made inside of the one before. -/
inductive Runs (lookup : String → Option Grammar) (line : List Char) :
    Grammar → LineState → List Pass → TokenizedLine → Prop where
  | scanned {g : Grammar} {s : LineState} {ts : List Turn} {l : TokenizedLine}
      (h : g.route lookup line s = .scan) (hl : ScansLine g line s ts l) :
    Runs lookup line g s [⟨g, s, 0, ts⟩] l
  | left {g : Grammar} {s : LineState} {p : Pass} {ps : List Pass} {l : TokenizedLine}
      (h : g.route lookup line s = .leave) (hl : Runs lookup line g s.pop (p :: ps) l) :
    Runs lookup line g s ({ p with state := s, left := p.left + 1 } :: ps) l
  | handed {g k : Grammar} {s : LineState} {ps : List Pass} {l : TokenizedLine}
      (h : g.route lookup line s = .hand k) (hl : Runs lookup line k s.inner ps l) :
    Runs lookup line g s (⟨g, s, 0, []⟩ :: ps) { l with endState := .embedding s.stack l.endState }
  | unknown {g : Grammar} {s : LineState} {id : String}
      (h : g.route lookup line s = .unknown id) :
    Runs lookup line g s [⟨g, s, 0, []⟩]
      ⟨id, TokenizedLine.plainTokens line, .embedding s.stack s.inner⟩

variable {ps qs : List Pass}

/-- The first pass is that of the grammar itself. -/
theorem Runs.exists_cons (h : Runs lookup line g s ps l) :
  ∃ p qs, ps = p :: qs ∧ p.grammar = g ∧ p.state = s
  := by
  induction h with
  | scanned => exact ⟨_, _, rfl, rfl, rfl⟩
  | left _ _ ih =>
    obtain ⟨p, qs, ⟨⟩, hgrammar, -⟩ := ih
    exact ⟨_, _, rfl, hgrammar, rfl⟩
  | handed => exact ⟨_, _, rfl, rfl, rfl⟩
  | unknown => exact ⟨_, _, rfl, rfl, rfl⟩

/-- However a line is read, it runs through some grammars. -/
theorem Tokenizes.exists_runs (h : Tokenizes lookup line g s l) :
  ∃ ps, Runs lookup line g s ps l
  := by
  induction h with
  | @scanned g s h =>
    obtain ⟨ts, hts⟩ := g.exists_scansLine line s
    rw [scanLine_eq_plainLine] at hts
    have hroute : g.route lookup line s = .scan := by rw [route, h]
    exact ⟨_, .scanned hroute hts⟩
  | @left g s e l h hcontinues _ ih =>
    obtain ⟨ps, hps⟩ := ih
    obtain ⟨p, qs, rfl, -⟩ := hps.exists_cons
    have hroute : g.route lookup line s = .leave := by
      rw [route, h]
      apply if_neg hcontinues
    exact ⟨_, .left hroute hps⟩
  | @handed g k s e l h hcontinues hlookup _ ih =>
    obtain ⟨ps, hps⟩ := ih
    have hroute : g.route lookup line s = .hand k := by
      simp only [route, h, hcontinues, hlookup, if_true]
    exact ⟨_, .handed hroute hps⟩
  | @unknown g s e h hcontinues hlookup =>
    have hroute : g.route lookup line s = .unknown e.grammar := by
      simp only [route, h, hcontinues, hlookup, if_true]
    exact ⟨_, .unknown hroute⟩

/-- In each state only one thing can be done with the line. -/
theorem Runs.unique (h : Runs lookup line g s ps l) (h' : Runs lookup line g s qs l') :
  ps = qs ∧ l = l'
  := by
  induction h generalizing qs l' with
  | scanned h hl =>
    cases h' with
    | scanned _ hl' =>
      obtain ⟨rfl, rfl⟩ := hl.unique hl'
      exact ⟨rfl, rfl⟩
    | left h' | handed h' | unknown h' =>
      rw [h] at h'
      cases h'
  | left h _ ih =>
    cases h' with
    | left _ hl' =>
      obtain ⟨⟨⟩, rfl⟩ := ih hl'
      exact ⟨rfl, rfl⟩
    | scanned h' | handed h' | unknown h' =>
      rw [h] at h'
      cases h'
  | handed h _ ih =>
    cases h' with
    | handed h' hl' =>
      rw [h] at h'
      cases h'
      obtain ⟨rfl, rfl⟩ := ih hl'
      exact ⟨rfl, rfl⟩
    | scanned h' | left h' | unknown h' =>
      rw [h] at h'
      cases h'
  | unknown h =>
    cases h' with
    | unknown h' =>
      rw [h] at h'
      cases h'
      exact ⟨rfl, rfl⟩
    | scanned h' | left h' | handed h' =>
      rw [h] at h'
      cases h'

/-! ### Bounds -/

/-- The steps of a run that do not scan lead to states that reach less far. -/
theorem reach_pop_le (h : g.route lookup line s = .leave) :
  s.pop.reach ≤ s.reach
  := by
  apply LineState.reach_pop_le
  apply stack_ne_nil (h.trans_ne nofun)

/-- The state that is handed on with a line reaches less deep. -/
theorem reach_inner_lt (h : g.route lookup line s ≠ .scan) :
  s.inner.reach < s.reach
  := LineState.reach_inner_lt (stack_ne_nil h)

/-- Each grammar after the first one belongs to an embedded state, but for one that starts from the
root. -/
theorem Runs.length_le (h : Runs lookup line g s ps l) :
  ps.length ≤ s.reach + 1
  := by
  induction h with
  | scanned => apply Nat.succ_le_succ (Nat.zero_le _)
  | left h _ ih => apply ih.trans (Nat.succ_le_succ (reach_pop_le h))
  | handed h _ ih =>
    apply Nat.succ_le_succ
    apply ih.trans (reach_inner_lt (h.trans_ne nofun))
  | unknown => apply Nat.succ_le_succ (Nat.zero_le _)

/-- A line that is scanned does not nest the state deeper. -/
theorem ScansLine.nest_le (h : ScansLine g line s ts l) :
  l.endState.nest ≤ s.nest
  := by
  obtain ⟨us, hus⟩ := g.exists_scansLine line s
  obtain ⟨-, rfl⟩ := h.unique hus
  rw [scanLine_eq_plainLine]
  apply nest_plainLine_le

/-- A line nests the state as deep as it reaches at most. -/
theorem Runs.nest_le (h : Runs lookup line g s ps l) :
  l.endState.nest ≤ s.reach
  := by
  induction h with
  | @scanned g s ts l _ hl => apply hl.nest_le.trans s.nest_le_reach
  | left h _ ih => apply ih.trans (reach_pop_le h)
  | handed h _ ih => apply ih.trans_lt (reach_inner_lt (h.trans_ne nofun))
  | @unknown g s id h => apply s.inner.nest_le_reach.trans_lt (reach_inner_lt (h.trans_ne nofun))

/-- However a line is read, it makes the stack deeper by two modes for each of its characters at
most. -/
theorem Runs.depth_le (h : Runs lookup line g s ps l) :
  l.endState.depth ≤ s.depth + max 1 (2 * line.length)
  := by
  induction h with
  | scanned _ hl => apply hl.depth_le
  | @left g s _ _ _ _ _ ih =>
    apply ih.trans
    rw [LineState.depth_pop]
    apply Nat.add_le_add_right (Nat.sub_le _ _)
  | handed => apply Nat.le_add_right
  | unknown => apply Nat.le_add_right

/-- What a pass does at most. -/
structure Pass.Bounded (p : Pass) : Prop where
  left_le : p.left ≤ p.state.depth
  /-- At each place of the line the mode is changed at most once without taking text. -/
  shifts : (p.turns.filterMap Turn.shift?).Pairwise (· < ·)
  /-- From each place of the line on text is taken at most once. -/
  consumes : (p.turns.filterMap Turn.consume?).Pairwise (· < ·)

/-- Each pass of a line is bounded. -/
theorem Runs.bounded (h : Runs lookup line g s ps l) :
  ∀ p ∈ ps, p.Bounded
  := by
  induction h with
  | scanned _ hl =>
    obtain ⟨hshifts, hconsumes⟩ := hl.pairwise
    intro p hp
    rw [List.mem_singleton] at hp
    subst hp
    exact ⟨Nat.zero_le _, hshifts, hconsumes⟩
  | @left g s p ps l h hl ih =>
    intro q hq
    rcases List.mem_cons.mp hq with rfl | hq
    · obtain ⟨hleft, hshifts, hconsumes⟩ := ih p List.mem_cons_self
      refine ⟨?_, hshifts, hconsumes⟩
      obtain ⟨_, _, ⟨⟩, -, hstate⟩ := hl.exists_cons
      have hpos : 0 < s.depth := List.length_pos_of_ne_nil (stack_ne_nil (h.trans_ne nofun))
      rw [hstate, LineState.depth_pop] at hleft
      apply Nat.add_le_of_le_sub hpos hleft
    · apply ih q (List.mem_cons_of_mem p hq)
  | handed _ _ ih =>
    intro p hp
    rcases List.mem_cons.mp hp with rfl | hp
    · exact ⟨Nat.zero_le _, .nil, .nil⟩
    · apply ih p hp
  | unknown =>
    intro p hp
    rw [List.mem_singleton] at hp
    subst hp
    exact ⟨Nat.zero_le _, .nil, .nil⟩

/-- Every line comes to an end: there is exactly one run for it, whichever grammars hand lines to
each other.  The grammars that get the line inside of each other are at most two more than those
that the state holds.  Each leaves no more modes than it has entered, and at each place of the line
it changes the mode at most once without taking text, and takes text at most once.  The state grows
by at most one grammar, and by two modes for each character. -/
theorem runs_tokenizeLine (r : Registry) (g : Grammar) (line : List Char) (s : LineState) :
  let l := g.tokenizeLine r.get? line s
  ∃ p ps, (∀ qs l', Runs r.get? line g s qs l' ↔ qs = p :: ps ∧ l' = l) ∧
    p.state = s ∧ (p :: ps).length ≤ s.nest + 2 ∧ (∀ q ∈ p :: ps, q.Bounded) ∧
    l.endState.nest ≤ s.nest + 1 ∧ l.endState.depth ≤ s.depth + max 1 (2 * line.length)
  := by
  intro l
  obtain ⟨_, h⟩ := (tokenizes_tokenizeLine r.get? line g s).exists_runs
  obtain ⟨p, ps, rfl, -, hstate⟩ := h.exists_cons
  refine ⟨p, ps, ?_, hstate, ?_, h.bounded, ?_, h.depth_le⟩
  · intro qs l'
    constructor
    · apply fun h' => Runs.unique h' h
    · rintro ⟨rfl, rfl⟩
      apply h
  · apply h.length_le.trans (Nat.succ_le_succ s.reach_le)
  · apply h.nest_le.trans s.reach_le

end Grammar

end Highlight
