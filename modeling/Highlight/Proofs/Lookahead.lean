import Highlight.Proofs.PlainScan

/-!
# What a lookahead knows

What is known about the next place of a rule says that the rule applies nowhere before that place.
A search establishes it, and moving forward keeps it.  The choice at a place is the first rule
that applies there; where none does, none applies before the place that scanning skips to either.
-/

namespace Highlight

namespace Rule

variable {r : Rule} {c d : Cursor} {next next' : Option Nat}

/-- From the place on the rule applies nowhere before the offset, or nowhere at all. -/
def Clear (r : Rule) (c : Cursor) (next : Option Nat) : Prop :=
  ∀ d, c ≤ d → (∀ n ∈ next, d.offset < n) → r.matchAt d = none

/-- What is clear from a place on is clear from any later one. -/
theorem Clear.mono (h : r.Clear c next) (hle : c ≤ d) :
  r.Clear d next
  := by
  intro e he hlt
  apply h e (hle.trans he) hlt

/-- If a rule is not read at a place, and nothing in front of `next` is read behind it, nothing in
front of `next` is read from the place on. -/
theorem Clear.of_past {x : Char} {rest : List Char} (hrest : c.rest = x :: rest)
    (hc : r.matchAt c = none) (h : r.Clear (c.past x rest) next) :
  r.Clear c next
  := by
  intro d hd hlt
  rcases Cursor.eq_or_past_le hd with rfl | ⟨y, rest', hrest', hle⟩
  · apply hc
  · rw [hrest] at hrest'
    cases hrest'
    apply h d hle hlt

/-- An offset is not later than another one, where a missing offset is the latest. -/
def NotLater (next next' : Option Nat) : Prop :=
  ∀ n ∈ next', ∃ m ∈ next, m ≤ n

theorem NotLater.refl (next : Option Nat) :
  NotLater next next
  := fun n hn => ⟨n, hn, le_rfl⟩

theorem NotLater.trans {next'' : Option Nat} (h : NotLater next next')
    (h' : NotLater next' next'') :
  NotLater next next''
  := by
  intro n hn
  obtain ⟨m, hm, hmn⟩ := h' n hn
  obtain ⟨k, hk, hkm⟩ := h m hm
  exact ⟨k, hk, hkm.trans hmn⟩

/-- The earlier of two places is not later than the first. -/
theorem notLater_earliest_left (next next' : Option Nat) :
  NotLater (Choice.earliest next next') next
  := by
  intro n hn
  cases next' with
  | none =>
    rw [Option.mem_def] at hn
    exact ⟨n, by rw [hn]; rfl, le_rfl⟩
  | some m =>
    rw [Option.mem_def] at hn
    exact ⟨min n m, by rw [hn]; rfl, min_le_left n m⟩

theorem notLater_earliest_right (next next' : Option Nat) :
  NotLater (Choice.earliest next next') next'
  := by
  intro n hn
  rw [Option.mem_def] at hn
  cases next with
  | none => exact ⟨n, by rw [hn]; rfl, le_rfl⟩
  | some m => exact ⟨min m n, by rw [hn]; rfl, min_le_right m n⟩

/-- What is clear up to a place is clear up to any place that is not later. -/
theorem Clear.notLater (h : r.Clear c next') (hle : NotLater next next') :
  r.Clear c next
  := by
  intro d hd hlt
  apply h d hd
  intro n hn
  obtain ⟨m, hm, hmn⟩ := hle n hn
  apply Nat.lt_of_lt_of_le (hlt m hm) hmn

/-- A search finds a place, and the rule applies nowhere before it. -/
theorem clear_search (r : Rule) (c : Cursor) :
  r.Clear c (r.search c) ∧ ∀ n ∈ r.search c, c.offset ≤ n
  := by
  rw [search]
  rcases r.pattern.search_spec c with ⟨d, hfirst, hsearch⟩ | ⟨hnone, hsearch⟩
  · rw [hsearch]
    constructor
    · intro e he hlt
      apply matchAt_eq_none
      rw [← Option.not_isSome_iff_eq_none]
      apply hfirst.first e he (hlt d.offset rfl)
    · rintro n ⟨⟩
      apply Cursor.offset_le hfirst.le
  · rw [hsearch]
    constructor
    · intro e he _
      apply matchAt_eq_none (hnone e he)
    · nofun

end Rule

/-- What is known about the next place of a rule is so from the place on. -/
def NextPlace.Holds (r : Rule) (c : Cursor) : NextPlace → Prop
  | unknown => True
  | known n => r.Clear c (some n)
  | nowhere => r.Clear c none

/-- What is remembered of a rule from a place on holds from any later one. -/
theorem NextPlace.Holds.mono {r : Rule} {c d : Cursor} {p : NextPlace} (h : p.Holds r c)
    (hle : c ≤ d) :
  p.Holds r d
  := by
  cases p with
  | unknown => trivial
  | known n => apply Rule.Clear.mono h hle
  | nowhere => apply Rule.Clear.mono h hle

/-- What a search finds is remembered rightly. -/
theorem NextPlace.holds_ofSearch {r : Rule} {c : Cursor} {next : Option Nat}
    (h : r.Clear c next) :
  (ofSearch next).Holds r c
  := by
  cases next with
  | none => apply h
  | some n => apply h

namespace Lookahead

variable {l l' : Lookahead} {rules : List Rule} {r : Rule} {c d : Cursor} {i : Nat}

/-- What is known about the rule with index `i` is so from the place on. -/
def HoldsAt (l : Lookahead) (rules : List Rule) (i : Nat) (c : Cursor) : Prop :=
  ∀ r p, rules[i]? = some r → l.places[i]? = some p → p.Holds r c

/-- What is known about the rules is so from the place on. -/
def Holds (l : Lookahead) (rules : List Rule) (c : Cursor) : Prop :=
  ∀ i, l.HoldsAt rules i c

/-- What is remembered of a rule stays right further on. -/
theorem HoldsAt.mono (h : l.HoldsAt rules i c) (hle : c ≤ d) :
  l.HoldsAt rules i d
  := by
  intro r p hr hp
  apply (h r p hr hp).mono hle

theorem Holds.mono (h : l.Holds rules c) (hle : c ≤ d) :
  l.Holds rules d
  := fun i => (h i).mono hle

/-- Nothing wrong is remembered at first, as nothing is. -/
theorem holds_fresh (mode n : Nat) (rules : List Rule) (c : Cursor) :
  (fresh mode n).Holds rules c
  := by
  intro i r p _ hp
  simp only [fresh, Array.getElem?_replicate] at hp
  split at hp
  next =>
    cases hp
    trivial
  next => cases hp

/-- A lookahead changed at most in what it knows about the rule with index `i`. -/
structure Updates (i : Nat) (l l' : Lookahead) : Prop where
  mode : l'.mode = l.mode
  places : ∀ j, j ≠ i → l'.places[j]? = l.places[j]?

theorem Updates.refl (i : Nat) (l : Lookahead) :
  Updates i l l
  := ⟨rfl, fun _ _ => rfl⟩

theorem Updates.trans {l'' : Lookahead} (h : Updates i l l') (h' : Updates i l' l'') :
  Updates i l l''
  where
  mode := h'.mode.trans h.mode
  places j hj := (h'.places j hj).trans (h.places j hj)

/-- What is remembered of the other rules stays right when that of one rule changes. -/
theorem Updates.holdsAt (h : Updates i l l') {j : Nat} (hj : j ≠ i) (hl : l.HoldsAt rules j c) :
  l'.HoldsAt rules j c
  := by
  intro r p hr hp
  rw [h.places j hj] at hp
  apply hl r p hr hp

/-- A search changes only what is remembered of its rule. -/
theorem updates_search (l : Lookahead) (i : Nat) (r : Rule) (c : Cursor) :
  Updates i l (l.search i r c).2
  where
  mode := rfl
  places j hj := by
    rw [search, Array.getElem?_setIfInBounds_ne hj.symm]

/-- After a search what is remembered of its rule is right. -/
theorem holdsAt_search (l : Lookahead) (hr : rules[i]? = some r) (hclear : r.Clear d (r.search c)) :
  (l.search i r c).2.HoldsAt rules i d
  := by
  intro r' p hr' hp
  rw [hr] at hr'
  cases hr'
  rw [search, Array.getElem?_setIfInBounds] at hp
  split at hp
  next =>
    split at hp
    next =>
      cases hp
      apply NextPlace.holds_ofSearch hclear
    next => cases hp
  next h => apply absurd rfl h

/-- What the next place of a rule is, and what is known afterwards. -/
structure NextIs (rules : List Rule) (i : Nat) (r : Rule) (c : Cursor) (l : Lookahead)
    (next : Option Nat) (l' : Lookahead) : Prop where
  clear : r.Clear c next
  le : ∀ n ∈ next, c.offset ≤ n
  updates : Updates i l l'
  holdsAt : l'.HoldsAt rules i c

/-- A search gives the next place of its rule. -/
theorem nextIs_search (hr : rules[i]? = some r) (l : Lookahead) (c : Cursor) :
  NextIs rules i r c l (l.search i r c).1 (l.search i r c).2
  := by
  obtain ⟨hclear, hle⟩ := r.clear_search c
  exact ⟨hclear, hle, updates_search l i r c, holdsAt_search l hr hclear⟩

/-- The next place of a rule is the one remembered, or it is searched for. -/
theorem nextIs_next (hr : rules[i]? = some r) (hl : l.HoldsAt rules i c) :
  NextIs rules i r c l (l.next i r c).1 (l.next i r c).2
  := by
  rw [next]
  split
  next n hplace =>
    split
    next hn => exact ⟨hl r _ hr hplace, by rintro _ ⟨⟩; exact hn, .refl i l, hl⟩
    next => apply nextIs_search hr
  next hplace => exact ⟨hl r _ hr hplace, nofun, .refl i l, hl⟩
  next => apply nextIs_search hr

end Lookahead

namespace Choice

variable {stalled : Bool} {c : Cursor} {x : Char} {rest : List Char} {r : Rule}

/-! ### Choosing -/

/-- What a choice says about the rules, and about the rules before them, which apply nowhere
before the offset `next`. -/
def Chosen (c : Cursor) (x : Char) (rest : List Char) (next : Option Nat) (rs : List Rule) :
    Choice stalled → Prop
  | consume r m => Rule.first? stalled c rs = some (r, m) ∧ m.tokenStop ≠ c.offset
  | shift r _ => ∃ m, Rule.first? stalled c rs = some (r, m) ∧ m.tokenStop = c.offset
  | skip next' =>
    Rule.first? stalled c rs = none ∧ Rule.NotLater next' next ∧
      ∀ r ∈ rs, r.Clear (c.past x rest) next'

/-- If the first rule is read at the place, it is chosen, whatever the others are. -/
theorem chosen_offer {choice : Choice stalled} {rs : List Rule} {next : Option Nat}
    (h : offer stalled c r = some choice) :
  choice.Chosen c x rest next (r :: rs)
  := by
  rw [offer] at h
  split at h
  next => cases h
  next m hm =>
    split at h
    next hstop =>
      split at h
      next hfresh =>
        cases h
        use m
        simp [Rule.first?, Rule.applies?, hm, hstop, hfresh]
      next => cases h
    next hstop =>
      cases h
      simp [Chosen, Rule.first?, Rule.applies?, hm, hstop]

/-- A rule that makes no offer does not apply. -/
theorem applies?_of_offer_eq_none (h : offer stalled c r = none) :
  r.applies? stalled c = none
  := by
  rw [offer] at h
  split at h
  next hm => apply Rule.applies?_eq_none hm
  next m hm =>
    split at h
    next hstop =>
      split at h
      next => cases h
      next hstalled => simp [Rule.applies?, hm, hstop, hstalled]
    next => cases h

/-- A rule that does not apply may be left out. -/
theorem Chosen.cons {choice : Choice stalled} {rs : List Rule} {next next' : Option Nat}
    (h : choice.Chosen c x rest next' rs) (hr : r.applies? stalled c = none)
    (hclear : r.Clear (c.past x rest) next') (hle : Rule.NotLater next' next) :
  choice.Chosen c x rest next (r :: rs)
  := by
  have hfirst : Rule.first? stalled c (r :: rs) = Rule.first? stalled c rs := by
    simp [Rule.first?, hr]
  cases choice with
  | consume r m => rwa [Chosen, hfirst]
  | shift r fresh => rwa [Chosen, hfirst]
  | skip next'' =>
    obtain ⟨hnone, hle', hclears⟩ := h
    rw [Chosen, hfirst]
    use hnone, hle'.trans hle
    intro s hs
    rcases List.mem_cons.mp hs with rfl | hs
    · apply hclear.notLater hle'
    · apply hclears s hs

/-- The place from which on what is known about the rules that do not apply at `c` is so. -/
def onward (stalled : Bool) (c : Cursor) (x : Char) (rest : List Char) : Cursor :=
  if stalled then c.past x rest else c

/-- The scan does not go back. -/
theorem le_onward (stalled : Bool) (hrest : c.rest = x :: rest) :
  c ≤ onward stalled c x rest
  := by
  cases stalled with
  | true => apply Cursor.le_past hrest
  | false => apply le_refl

theorem onward_le_past (stalled : Bool) (hrest : c.rest = x :: rest) :
  onward stalled c x rest ≤ c.past x rest
  := by
  cases stalled with
  | true => apply le_refl
  | false => apply Cursor.le_past hrest

/-- If a rule does not apply, nothing of it is read up to the place remembered behind the first
character. -/
theorem clear_onward {next : Option Nat} (hrest : c.rest = x :: rest)
    (hr : r.applies? stalled c = none) (h : r.Clear (c.past x rest) next) :
  r.Clear (onward stalled c x rest) next
  := by
  cases stalled with
  | true => apply h
  | false =>
    apply Rule.Clear.of_past hrest _ h
    rw [Rule.applies?] at hr
    split at hr
    next hm => apply hm
    next => simp at hr

/-- What is known about the rules from index `i` on is so from the place on, and about the rules
before them onward of the place. -/
structure Ready (stalled : Bool) (rules : List Rule) (c : Cursor) (x : Char) (rest : List Char)
    (i : Nat) (l : Lookahead) : Prop where
  back : ∀ j < i, l.HoldsAt rules j (onward stalled c x rest)
  ahead : ∀ j, i ≤ j → l.HoldsAt rules j c

variable {rules rs : List Rule} {next next' : Option Nat} {i : Nat} {l l' : Lookahead}

/-- What is remembered of all rules holds where the scan goes on. -/
theorem Ready.holds (h : Ready stalled rules c x rest i l) (hrest : c.rest = x :: rest) :
  l.Holds rules (onward stalled c x rest)
  := by
  intro j
  rcases Nat.lt_or_ge j i with hj | hj
  · apply h.back j hj
  · apply (h.ahead j hj).mono (le_onward stalled hrest)

/-- Only what is known about one rule changes, and that is so onward of the place. -/
theorem Ready.updates (h : Ready stalled rules c x rest i l) (hupdates : l.Updates i l')
    (hi : l'.HoldsAt rules i (onward stalled c x rest)) :
  Ready stalled rules c x rest (i + 1) l'
  where
  back j hj := by
    rcases Nat.lt_succ_iff_lt_or_eq.mp hj with hj | rfl
    · apply hupdates.holdsAt (Nat.ne_of_lt hj) (h.back j hj)
    · apply hi
  ahead j hj := by
    apply hupdates.holdsAt (Nat.ne_of_gt hj) (h.ahead j (Nat.le_of_succ_le hj))

/-- The choice among the rules `rs` is right, and what the lookahead after it knows is so onward of
the place. -/
structure Fits (rules : List Rule) (c : Cursor) (x : Char) (rest : List Char) (next : Option Nat)
    (rs : List Rule) (l : Lookahead) (answer : Choice stalled × Lookahead) : Prop where
  chosen : answer.1.Chosen c x rest next rs
  mode : answer.2.mode = l.mode
  holds : answer.2.Holds rules (onward stalled c x rest)

/-- A rule that does not apply can be put in front of the others without changing the answer. -/
theorem Fits.cons {answer : Choice stalled × Lookahead}
    (h : Fits rules c x rest next' rs l' answer) (hupdates : l.Updates i l')
    (hr : r.applies? stalled c = none) (hclear : r.Clear (c.past x rest) next')
    (hle : Rule.NotLater next' next) :
  Fits rules c x rest next (r :: rs) l answer
  where
  chosen := h.chosen.cons hr hclear hle
  mode := h.mode.trans hupdates.mode
  holds := h.holds

/-- The rule chosen among the rules from one on is the first of them that applies, by induction on
the rules that are left. -/
theorem fits_amongFrom (hrest : c.rest = x :: rest) (rs : List Rule) (hrs : rules.drop i = rs)
    (hl : Ready stalled rules c x rest i l) :
  Fits rules c x rest next rs l (among stalled c x rest i next rs l)
  := by
  have hle := le_onward stalled hrest
  have hpast := Cursor.le_past hrest
  induction rs generalizing i next l with
  | nil => exact ⟨⟨rfl, .refl next, nofun⟩, rfl, hl.holds hrest⟩
  | cons r rs ih =>
    have hr : rules[i]? = some r := by
      rw [← Nat.add_zero i, ← List.getElem?_drop, hrs]
      rfl
    have hdrop : rules.drop (i + 1) = rs := by
      rw [← List.drop_drop, hrs]
      rfl
    have hnext := Lookahead.nextIs_next hr (hl.ahead i le_rfl)
    rw [among]
    generalize l.next i r c = answer at hnext ⊢
    obtain ⟨found, l'⟩ := answer
    obtain ⟨hclear, hoffset, hupdates, hi⟩ := hnext
    have hl' := hl.updates hupdates (hi.mono hle)
    cases found with
    | none =>
      apply (ih hdrop hl').cons hupdates
      · apply Rule.applies?_eq_none (hclear c le_rfl nofun)
      · apply (hclear.mono hpast).notLater nofun
      · apply Rule.NotLater.refl
    | some n =>
      simp only
      split
      next hn =>
        split
        next choice hoffer => exact ⟨chosen_offer hoffer, hupdates.mode, hl'.holds hrest⟩
        next hoffer =>
          -- The rule does not apply here, so it is searched again behind the place.
          have happlies := applies?_of_offer_eq_none hoffer
          obtain ⟨hclear, -⟩ := r.clear_search (c.past x rest)
          have hagain := hupdates.trans (l'.updates_search i r (c.past x rest))
          have honward := l'.holdsAt_search hr (clear_onward hrest happlies hclear)
          apply (ih hdrop (hl.updates hagain honward)).cons hagain happlies
          · apply hclear.notLater (Rule.notLater_earliest_right next _)
          · apply Rule.notLater_earliest_left
      next hn =>
        apply (ih hdrop hl').cons hupdates
        · apply Rule.applies?_eq_none
          apply hclear c le_rfl
          rintro _ ⟨⟩
          apply Nat.lt_of_le_of_ne (hoffset n rfl) (Ne.symm hn)
        · apply (hclear.mono hpast).notLater (Rule.notLater_earliest_right next _)
        · apply Rule.notLater_earliest_left

/-- The choice at a place among all rules of a mode. -/
theorem fits_among (stalled : Bool) (hrest : c.rest = x :: rest) (hl : l.Holds rules c) :
  Fits rules c x rest none rules l (among stalled c x rest 0 none rules l)
  := fits_amongFrom hrest rules rfl ⟨nofun, fun j _ => hl j⟩

end Choice

end Highlight
