import Highlight.Proofs.Tokenize

/-!
# Lines that are sorted in one mode

Where rules change the mode only at the end of the line, a line is sorted by the rules of one mode.
Then each classified token is what some rule takes at some place, and no place is passed at which a
rule applies.
-/

namespace Highlight

/-- The pieces of the line from the place on, sorted by the rules of one mode. -/
inductive Sorted (rules : List Rule) : Cursor → List Token → Prop where
  | done {c : Cursor} (hrest : c.rest = []) : Sorted rules c []
  | rule {c : Cursor} {r : Rule} {m : RuleMatch} {ts : List Token} (hrest : c.rest ≠ [])
      (hfirst : Rule.first? false c rules = some (r, m))
      (h : Sorted rules (c.moveTo m.tokenStop) ts) :
    Sorted rules c (m.pieces c r.kind ++ ts)
  | past {c : Cursor} {x : Char} {rest : List Char} {ts : List Token} (hrest : c.rest = x :: rest)
      (hfirst : Rule.first? false c rules = none) (h : Sorted rules (c.past x rest) ts) :
    Sorted rules c (⟨c.offset, (c.past x rest).offset, .default⟩ :: ts)

/-- A rule of the list that changes the mode takes all that is left of the line. -/
def Rule.Steady (rules : List Rule) : Prop :=
  ∀ r ∈ rules, r.action ≠ .stay → ∀ c m, r.matchAt c = some m → (c.moveTo m.tokenStop).rest = []

variable {rules : List Rule} {c d e : Cursor} {r : Rule} {m : RuleMatch} {t : Token}
  {ts : List Token}

namespace Token

/-- A piece has one token, unless it is empty. -/
theorem mem_piece {start stop : Nat} {kind : TokenKind} :
  t ∈ piece start stop kind ↔ start < stop ∧ t = ⟨start, stop, kind⟩
  := by
  rw [piece]
  split
  next h => rw [List.mem_singleton, and_iff_right h]
  next h => exact iff_of_false List.not_mem_nil fun hpiece => h hpiece.1

/-- Unclassified tokens cover a way as one token, or as none if there is nothing on the way. -/
theorem eq_piece (h : c.CoveredBy ts d)
    (halternate : ts.IsChain fun t u => ¬(t.kind = .default ∧ u.kind = .default))
    (hts : ∀ t ∈ ts, t.kind = .default) :
  ts = piece c.offset d.offset .default
  := by
  cases ts with
  | nil =>
    obtain rfl := h
    rw [piece, if_neg (Nat.lt_irrefl _)]
  | cons t ts =>
    obtain ⟨ht, hts⟩ := List.forall_mem_cons.mp hts
    obtain ⟨e, -, hlt, hstart, hstop, h⟩ := h
    cases ts with
    | nil =>
      obtain rfl : e = d := h
      rw [piece, if_pos hlt, ← hstart, ← hstop, ← ht]
    | cons u ts =>
      have hu := hts u List.mem_cons_self
      apply absurd ⟨ht, hu⟩ (List.isChain_cons_cons.mp halternate).1

/-- What comes behind a classified token is joined on its own. -/
theorem joined_piece_append_cons (start stop : Nat) (hkind : t.kind ≠ .default) (ts : List Token) :
  joined (piece start stop .default ++ t :: ts) = piece start stop .default ++ t :: joined ts
  := by
  have hcons : joined (t :: ts) = t :: joined ts := by
    rw [joined]
    split
    next hts => rw [hts]
    next u us hts => rw [if_neg fun hjoins => hkind hjoins.1, hts]
  rw [piece]
  split
  next =>
    rw [List.singleton_append, joined, hcons]
    apply if_neg fun hjoins => hkind hjoins.2.1
  next => apply hcons

/-- Joining leaves classified tokens as they are. -/
theorem mem_joined_of_ne (hkind : t.kind ≠ .default) (ts : List Token) :
  t ∈ joined ts ↔ t ∈ ts
  := by
  induction ts with
  | nil => rfl
  | cons u ts ih =>
    rw [joined, List.mem_cons, ← ih]
    split
    next h => simp [h]
    next v vs h =>
      rw [h]
      split
      next hjoins =>
        obtain ⟨hu, hv, -⟩ := hjoins
        have htu : t ≠ u := fun h => hkind (h ▸ hu)
        have htv : t ≠ v := fun h => hkind (h ▸ hv)
        have hnew : t ≠ ⟨u.start, v.stop, .default⟩ := fun h => hkind (h ▸ rfl)
        simp only [List.mem_cons, htu, htv, hnew, false_or]
      next => rw [List.mem_cons]

end Token

namespace Rule

/-- If no rule applies after something was taken, none is read at the place. -/
theorem matchAt_of_first?_eq_none (h : first? false c rules = none) (hr : r ∈ rules) :
  r.matchAt c = none
  := by
  have happlies := List.findSome?_eq_none_iff.mp h r hr
  rw [applies?] at happlies
  split at happlies
  next hnone => apply hnone
  next => simp at happlies

/-- A rule applies only if the rules in front of it do not. -/
theorem mem_of_first?_append {s : Rule} {others : List Rule} (hs : s ∈ rules)
    (hmatch : (s.matchAt c).isSome) (hfirst : first? false c (rules ++ others) = some (r, m)) :
  r ∈ rules
  := by
  have hsome : (first? false c rules).isSome := by
    obtain ⟨m', hm⟩ := Option.isSome_iff_exists.mp hmatch
    apply List.findSome?_isSome_iff.mpr ⟨s, hs, _⟩
    rw [applies?, hm]
    rfl
  obtain ⟨applied, happlied⟩ := Option.isSome_iff_exists.mp hsome
  rw [first?, List.findSome?_append, ← first?, happlied, Option.some_or] at hfirst
  cases hfirst
  apply (first?_eq_some happlied).1

end Rule

namespace Sorted

/-- Where a rule applies, its pieces come first. -/
theorem exists_pieces_append (h : Sorted rules c ts) (hrest : c.rest ≠ [])
    (hfirst : Rule.first? false c rules = some (r, m)) :
  ∃ others, ts = m.pieces c r.kind ++ others
  := by
  cases h with
  | done hnil => contradiction
  | rule _ hfirst' h =>
    rw [hfirst] at hfirst'
    cases hfirst'
    exact ⟨_, rfl⟩
  | past _ hnone h =>
    rw [hfirst] at hnone
    cases hnone

/-- A classified piece is what the first rule that applies at some place takes. -/
theorem exists_rule_of_mem (h : Sorted rules c ts) (ht : t ∈ ts) (hkind : t.kind ≠ .default) :
  ∃ d r m, c ≤ d ∧ Rule.first? false d rules = some (r, m) ∧
    t = ⟨m.tokenStart, m.tokenStop, r.kind⟩
  := by
  induction h with
  | done => cases ht
  | @rule c r m ts hrest hfirst h ih =>
    rcases List.mem_append.mp ht with ht | ht
    · rw [RuleMatch.pieces, List.mem_append, Token.mem_piece, Token.mem_piece] at ht
      rcases ht with ⟨-, rfl⟩ | ⟨-, ht⟩
      · contradiction
      · exact ⟨c, r, m, le_rfl, hfirst, ht⟩
    · obtain ⟨d, r, m', hd, h⟩ := ih ht
      exact ⟨d, r, m', (c.le_moveTo m.tokenStop).trans hd, h⟩
  | past hrest hfirst h ih =>
    rcases List.mem_cons.mp ht with rfl | ht
    · contradiction
    · obtain ⟨d, r, m, hd, h⟩ := ih ht
      exact ⟨d, r, m, (Cursor.le_past hrest).trans hd, h⟩

/-- A classified token is what the first rule that applies at some place takes. -/
theorem exists_rule (h : Sorted rules c ts) (ht : t ∈ Token.joined ts) (hkind : t.kind ≠ .default) :
  ∃ d r m, c ≤ d ∧ Rule.first? false d rules = some (r, m) ∧
    t = ⟨m.tokenStart, m.tokenStop, r.kind⟩
  := h.exists_rule_of_mem ((Token.mem_joined_of_ne hkind ts).mp ht) hkind

/-- A place with something behind it is passed by what a rule takes, or no rule applies there. -/
theorem passes_or_not_applies (h : Sorted rules c ts) (hle : c ≤ e) (hrest : e.rest ≠ []) :
  (∃ d r m, c ≤ d ∧ d ≤ e ∧ Rule.first? false d rules = some (r, m) ∧ e.offset < m.tokenStop ∧
      ∀ t ∈ m.pieces d r.kind, t ∈ ts) ∨
    ∀ r ∈ rules, r.matchAt e = none
  := by
  induction h with
  | done hnil =>
    have hlength := Cursor.length_rest_le hle
    rw [hnil] at hlength
    apply absurd (List.eq_nil_of_length_eq_zero (Nat.le_zero.mp hlength)) hrest
  | @rule c r m ts _ hfirst h ih =>
    rcases Nat.lt_or_ge e.offset m.tokenStop with hlt | hge
    · left
      exact ⟨c, r, m, le_rfl, hle, hfirst, hlt, fun t => List.mem_append_left ts⟩
    · obtain ⟨-, hm, -⟩ := Rule.first?_eq_some hfirst
      obtain ⟨a, b, ha, hab, -, hstop, hmove⟩ := (Rule.matches_of_matchAt hm).exists_token
      rw [hmove] at ih
      rw [hstop] at hge
      apply (ih (Cursor.le_of_offset_le (ha.trans hab) hle hge)).imp_left
      rintro ⟨d, s, m', hd, hde, hfirst', hlt, hpieces⟩
      refine ⟨d, s, m', (ha.trans hab).trans hd, hde, hfirst', hlt, ?_⟩
      intro t ht
      apply List.mem_append_right _ (hpieces t ht)
  | @past c x rest ts hrest' hfirst h ih =>
    rcases Cursor.eq_or_past_le hle with rfl | ⟨y, rest', hrest'', hpast⟩
    · right
      intro r hr
      apply Rule.matchAt_of_first?_eq_none hfirst hr
    · rw [hrest'] at hrest''
      cases hrest''
      apply (ih hpast).imp_left
      rintro ⟨d, s, m', hd, hde, hfirst', hlt, hpieces⟩
      refine ⟨d, s, m', (Cursor.le_past hrest').trans hd, hde, hfirst', hlt, ?_⟩
      intro t ht
      apply List.mem_cons_of_mem _ (hpieces t ht)

/-- A place is passed by what a rule takes, and its token is classified unless it is empty; or no
rule applies at the place. -/
theorem passes (h : Sorted rules c ts) (hle : c ≤ e) (hrest : e.rest ≠ []) :
  (∃ d r m, c ≤ d ∧ d ≤ e ∧ Rule.first? false d rules = some (r, m) ∧ e.offset < m.tokenStop ∧
      (m.tokenStart < m.tokenStop → r.kind ≠ .default →
        ⟨m.tokenStart, m.tokenStop, r.kind⟩ ∈ Token.joined ts)) ∨
    ∀ r ∈ rules, r.matchAt e = none
  := by
  apply (h.passes_or_not_applies hle hrest).imp_left
  rintro ⟨d, r, m, hd, hde, hfirst, hlt, hpieces⟩
  refine ⟨d, r, m, hd, hde, hfirst, hlt, ?_⟩
  intro htext hkind
  rw [Token.mem_joined_of_ne hkind]
  apply hpieces
  apply List.mem_append_right
  apply Token.mem_piece.mpr ⟨htext, rfl⟩

end Sorted

namespace Grammar

variable {g : Grammar} {state : LineState}

/-- If the rules are steady, the pieces of a scan are sorted by them. -/
theorem sorted_plainScan (hsteady : Rule.Steady rules) (hrules : g.rules? state.mode = some rules)
    (c : Cursor) :
  Sorted rules c (g.plainScan false state c).1
  := by
  generalize hstalled : false = stalled
  fun_induction plainScan g stalled state c with
  | case1 stalled state c hrest => apply Sorted.done hrest
  | case2 stalled state c x rest hrest hnone =>
    rw [hrules] at hnone
    cases hnone
  | case3 stalled state c x rest hrest rules' hrules' r m hfirst later ih =>
    rw [hrules] at hrules'
    cases hrules'
    subst hstalled
    obtain ⟨hr, hm, -⟩ := Rule.first?_eq_some hfirst
    apply Sorted.rule (by simp [hrest]) hfirst
    by_cases haction : r.action = .stay
    · apply ih
      · rw [haction]
        apply hrules
      · symm
        apply decide_eq_false
        intro hempty
        apply (Rule.matches_of_matchAt hm).action hempty haction
    · have hend := hsteady r hr haction c m hm
      have hlater : later = ([], g.apply r.action state) := plainScan_end hend
      rw [hlater]
      apply Sorted.done hend
  | case4 stalled state c x rest hrest rules' hrules' hfirst later ih =>
    rw [hrules] at hrules'
    cases hrules'
    subst hstalled
    apply Sorted.past hrest hfirst (ih hrules rfl)

/-- The tokens of a line that starts at the root, before the unclassified ones are joined. -/
theorem exists_sorted (g : Grammar) (hsteady : Rule.Steady g.rootRules)
    (lookup : String → Option Grammar) (line : List Char) :
  ∃ ts, Sorted g.rootRules (Cursor.start line) ts ∧
    (g.tokenizeLine lookup line .root).tokens = Token.joined ts
  := by
  have hroot : g.embedding? LineState.root.mode = none := rfl
  rw [tokenizeLine_eq_plainLine lookup line hroot]
  cases line with
  | nil =>
    refine ⟨[], .done rfl, ?_⟩
    rw [plainLine]
    split <;> rfl
  | cons x line => exact ⟨_, g.sorted_plainScan hsteady rfl _, rfl⟩

end Grammar

end Highlight
