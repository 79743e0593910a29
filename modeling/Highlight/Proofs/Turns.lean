import Highlight.Proofs.Scan

/-!
# Scanning turn by turn

A scan is taken apart into turns.  In each turn it looks at one place and either changes the mode
there, or moves on.
-/

namespace Highlight

theorem LineState.depth_pop (s : LineState) :
  s.pop.depth = s.depth - 1
  := List.length_tail

namespace Grammar

/-- What a scan does in one turn. -/
inductive Turn where
  /-- The rule changes the mode at the offset without taking any text. -/
  | shift (offset : Nat) (rule : Rule)
  /-- The rule takes text from the offset on. -/
  | consume (offset : Nat) (rule : Rule)
  /-- No rule applies at the offset. -/
  | skip (offset : Nat)
deriving DecidableEq, Repr

namespace Turn

/-- The offset at which the turn changes the mode without taking any text. -/
def shift? : Turn → Option Nat
  | shift offset _ => some offset
  | _ => none

/-- The offset from which on the turn takes text. -/
def consume? : Turn → Option Nat
  | consume offset _ => some offset
  | _ => none

end Turn

/-- Where a scan has come to. -/
structure Scanner where
  /-- The mode has been changed at the cursor without taking any text. -/
  stalled : Bool
  ahead : Lookahead
  state : LineState
  /-- The tokens before the cursor, in reverse order. -/
  tokens : List Token
  cursor : Cursor

namespace Scanner

/-- Where the scan of a line starts. -/
def start (line : List Char) (s : LineState) : Scanner :=
  ⟨false, .fresh s.mode 0, s, [], .start line⟩

/-- What the scan comes to if it ends here. -/
def finish (p : Scanner) : List Token × LineState :=
  match p.cursor.rest with
  | [] => (p.tokens, p.state)
  | _ :: _ =>
    (Token.push ⟨p.cursor.offset, p.cursor.moveToEnd.offset, .default⟩ p.tokens, p.state)

/-- The number of turns that can follow. -/
def room (p : Scanner) : Nat :=
  2 * p.cursor.rest.length - (if p.stalled then 1 else 0)

end Scanner

/-- What the scan comes to in the end. -/
def scanFrom (g : Grammar) (p : Scanner) : List Token × LineState :=
  g.scan p.stalled p.ahead p.state p.tokens p.cursor

/-- The next turn of a scan, unless it has ended. -/
def turn? (g : Grammar) (p : Scanner) : Option (Turn × Scanner) :=
  let c := p.cursor
  match c.rest with
  | [] => none
  | x :: rest =>
    match g.rules? p.state.mode with
    | none => none
    | some rules =>
      match Choice.among p.stalled c x rest 0 none rules
          (p.ahead.forMode p.state.mode rules.length) with
      | (.consume r found, ahead) =>
        some (.consume c.offset r, ⟨false, ahead, g.apply r.action p.state,
          emit r.kind found p.tokens, (c.past x rest).moveTo found.tokenStop⟩)
      | (.shift r _, ahead) =>
        some (.shift c.offset r, ⟨true, ahead, g.apply r.action p.state, p.tokens, c⟩)
      | (.skip next, ahead) =>
        let d := advance (c.past x rest) next
        some (.skip c.offset,
          ⟨false, ahead, p.state, Token.push ⟨c.offset, d.offset, .default⟩ p.tokens, d⟩)

variable {g : Grammar} {p q : Scanner} {t : Turn} {ts us : List Turn}
  {result result' : List Token × LineState}

/-- A scan without a further turn is finished. -/
theorem scanFrom_of_turn?_none (h : g.turn? p = none) :
  g.scanFrom p = p.finish
  := by
  obtain ⟨stalled, ahead, state, tokens, before, offset, rest⟩ := p
  cases rest with
  | nil =>
    rw [scanFrom, scan]
    rfl
  | cons x rest =>
    rw [scanFrom, scan]
    simp only [turn?] at h
    split at h
    next hrules =>
      simp only [hrules]
      rfl
    next rules hrules =>
      split at h <;> cases h

/-- A scan goes on where its next turn leads to. -/
theorem scanFrom_of_turn?_some (h : g.turn? p = some (t, q)) :
  g.scanFrom p = g.scanFrom q
  := by
  obtain ⟨stalled, ahead, state, tokens, before, offset, rest⟩ := p
  cases rest with
  | nil => cases h
  | cons x rest =>
    rw [scanFrom, scan]
    simp only [turn?] at h
    split at h
    next => cases h
    next rules hrules =>
      split at h
      all_goals
        next hamong =>
          cases h
          simp only [hrules, hamong]
          rfl

/-- A turn changes the mode by a rule at a place where that has not been done before, or goes on
to a later place by a rule, or goes on without one. -/
theorem turn?_cases (h : g.turn? p = some (t, q)) :
  (∃ r, t = .shift p.cursor.offset r ∧ p.stalled = false ∧ q.stalled = true ∧
    q.cursor = p.cursor ∧ q.state = g.apply r.action p.state) ∨
  (q.stalled = false ∧ p.cursor.offset < q.cursor.offset ∧
    q.cursor.rest.length < p.cursor.rest.length ∧
    ((∃ r, t = .consume p.cursor.offset r ∧ q.state = g.apply r.action p.state) ∨
      t = .skip p.cursor.offset ∧ q.state = p.state))
  := by
  obtain ⟨stalled, ahead, state, tokens, before, offset, rest⟩ := p
  cases rest with
  | nil => cases h
  | cons x rest =>
    simp only [turn?] at h
    split at h
    next => cases h
    next rules hrules =>
      let c : Cursor := ⟨before, offset, x :: rest⟩
      have hpast : ∀ d, c.past x rest ≤ d →
          c.offset < d.offset ∧ d.rest.length < c.rest.length := by
        intro d hd
        constructor
        · apply Nat.lt_of_lt_of_le (c.offset_lt_past x rest) (Cursor.offset_le hd)
        · apply Nat.lt_succ_of_le (Cursor.length_rest_le hd)
      split at h
      next r found ahead' _ =>
        cases h
        obtain ⟨hoffset, hlength⟩ := hpast _ (Cursor.le_moveTo _ found.tokenStop)
        exact .inr ⟨rfl, hoffset, hlength, .inl ⟨r, rfl, rfl⟩⟩
      next r fresh ahead' _ =>
        cases h
        exact .inl ⟨r, rfl, fresh, rfl, rfl, rfl⟩
      next next' ahead' _ =>
        cases h
        obtain ⟨hoffset, hlength⟩ := hpast _ (le_advance _ next')
        exact .inr ⟨rfl, hoffset, hlength, .inr ⟨rfl, rfl⟩⟩

/-- A turn is taken only in front of a character. -/
theorem length_rest_pos_of_turn? (h : g.turn? p = some (t, q)) :
  0 < p.cursor.rest.length
  := by
  obtain ⟨stalled, ahead, state, tokens, before, offset, rest⟩ := p
  cases rest with
  | nil => cases h
  | cons x rest => apply Nat.succ_pos

/-- A turn that goes on leaves less room, whether or not the mode has been changed before. -/
theorem room_lt (h : g.turn? p = some (t, q)) :
  q.room < p.room
  := by
  have hpos := length_rest_pos_of_turn? h
  rw [Scanner.room, Scanner.room]
  rcases turn?_cases h with ⟨r, -, hp, hq, hcursor, -⟩ | ⟨hq, -, hlength, -⟩
  · rw [hp, hq, hcursor, if_pos rfl, if_neg Bool.false_ne_true]
    omega
  · rw [hq, if_neg Bool.false_ne_true]
    split <;> omega

/-! ### Scans from the first turn to the last -/

/-- The scan takes the turns one after another and then has ended with the result. -/
inductive Scans (g : Grammar) : Scanner → List Turn → List Token × LineState → Prop where
  | stop {p : Scanner} (h : g.turn? p = none) : Scans g p [] p.finish
  | turn {p q : Scanner} {t : Turn} {ts : List Turn} {result : List Token × LineState}
      (h : g.turn? p = some (t, q)) (hq : Scans g q ts result) : Scans g p (t :: ts) result

/-- A scan ends, because each turn leaves less room for others. -/
theorem exists_scans (g : Grammar) (p : Scanner) :
  ∃ ts, Scans g p ts (g.scanFrom p)
  := by
  induction hn : p.room using Nat.strong_induction_on generalizing p with
  | _ n ih =>
    cases h : g.turn? p with
    | none =>
      rw [scanFrom_of_turn?_none h]
      exact ⟨[], .stop h⟩
    | some next =>
      obtain ⟨t, q⟩ := next
      obtain ⟨ts, hts⟩ := ih q.room (hn ▸ room_lt h) q rfl
      rw [scanFrom_of_turn?_some h]
      exact ⟨t :: ts, .turn h hts⟩

/-- There is only one way to take the turns. -/
theorem Scans.unique (h : Scans g p ts result) (h' : Scans g p us result') :
  ts = us ∧ result = result'
  := by
  induction h generalizing us result' with
  | stop h =>
    cases h' with
    | stop => exact ⟨rfl, rfl⟩
    | turn ht =>
      rw [h] at ht
      cases ht
  | turn h _ ih =>
    cases h' with
    | stop hnone =>
      rw [h] at hnone
      cases hnone
    | turn ht hq =>
      rw [h] at ht
      cases ht
      obtain ⟨rfl, rfl⟩ := ih hq
      exact ⟨rfl, rfl⟩

/-! ### How much a scan does -/

/-- The mode is changed without taking text behind the cursor, or at the cursor if that has not been
done there before. -/
theorem Scans.shift?_ge (h : Scans g p ts result) :
  ∀ n ∈ ts.filterMap Turn.shift?,
    p.cursor.offset < n ∨ p.cursor.offset = n ∧ p.stalled = false
  := by
  induction h with
  | stop => nofun
  | @turn p q t ts _ h _ ih =>
    intro n hn
    rcases turn?_cases h with ⟨r, rfl, hp, hq, hcursor, -⟩ | ⟨-, hlt, -, hturn⟩
    · rcases List.mem_cons.mp hn with rfl | hn
      · exact .inr ⟨rfl, hp⟩
      · rw [← hcursor]
        apply (ih n hn).imp_right
        rintro ⟨heq, -⟩
        exact ⟨heq, hp⟩
    · have hn' : n ∈ ts.filterMap Turn.shift? := by
        rcases hturn with ⟨r, rfl, -⟩ | ⟨rfl, -⟩ <;> exact hn
      left
      rcases ih n hn' with hlt' | ⟨rfl, -⟩
      · apply hlt.trans hlt'
      · apply hlt

/-- At each place the mode is changed at most once without taking text. -/
theorem Scans.pairwise_shift? (h : Scans g p ts result) :
  (ts.filterMap Turn.shift?).Pairwise (· < ·)
  := by
  induction h with
  | stop => exact .nil
  | turn h hq ih =>
    rcases turn?_cases h with ⟨r, rfl, -, hstalled, hcursor, -⟩ | ⟨-, -, -, hturn⟩
    · apply List.Pairwise.cons _ ih
      intro n hn
      rw [← hcursor]
      apply (hq.shift?_ge n hn).resolve_right
      rintro ⟨-, hfresh⟩
      rw [hstalled] at hfresh
      cases hfresh
    · rcases hturn with ⟨r, rfl, -⟩ | ⟨rfl, -⟩ <;> exact ih

/-- No turn takes anything in front of where the scan starts. -/
theorem Scans.consume?_ge (h : Scans g p ts result) :
  ∀ n ∈ ts.filterMap Turn.consume?, p.cursor.offset ≤ n
  := by
  induction h with
  | stop => nofun
  | turn h _ ih =>
    intro n hn
    rcases turn?_cases h with ⟨r, rfl, -, -, hcursor, -⟩ | ⟨-, hlt, -, ⟨r, rfl, -⟩ | ⟨rfl, -⟩⟩
    · rw [← hcursor]
      apply ih n hn
    · rcases List.mem_cons.mp hn with rfl | hn
      · apply le_rfl
      · apply hlt.le.trans (ih n hn)
    · apply hlt.le.trans (ih n hn)

/-- From each place on text is taken at most once. -/
theorem Scans.pairwise_consume? (h : Scans g p ts result) :
  (ts.filterMap Turn.consume?).Pairwise (· < ·)
  := by
  induction h with
  | stop => exact .nil
  | turn h hq ih =>
    rcases turn?_cases h with ⟨r, rfl, -⟩ | ⟨-, hlt, -, ⟨r, rfl, -⟩ | ⟨rfl, -⟩⟩
    · exact ih
    · apply List.Pairwise.cons _ ih
      intro n hn
      apply hlt.trans_le (hq.consume?_ge n hn)
    · exact ih

/-- An action makes the stack deeper by one mode at most. -/
theorem depth_apply_le (g : Grammar) (a : Action) (s : LineState) :
  (g.apply a s).depth ≤ s.depth + 1
  := by
  cases a with
  | stay => apply Nat.le_succ
  | push target =>
    rw [apply]
    split
    next => apply le_rfl
    next => apply Nat.le_succ
  | pop =>
    rw [apply, LineState.depth_pop]
    omega

/-- Each turn that there is room for enters one mode at most. -/
theorem Scans.depth_le (h : Scans g p ts result) :
  result.2.depth ≤ p.state.depth + p.room
  := by
  induction h with
  | @stop p =>
    have hstate : p.finish.2 = p.state := by
      rw [Scanner.finish]
      split <;> rfl
    rw [hstate]
    apply Nat.le_add_right
  | @turn p q t ts result h _ ih =>
    have hroom := room_lt h
    have hstep : q.state.depth ≤ p.state.depth + 1 := by
      rcases turn?_cases h with ⟨r, -, -, -, -, hq⟩ | ⟨-, -, -, ⟨r, -, hq⟩ | ⟨-, hq⟩⟩
      · rw [hq]
        apply depth_apply_le
      · rw [hq]
        apply depth_apply_le
      · rw [hq]
        apply Nat.le_succ
    omega

end Grammar

end Highlight
