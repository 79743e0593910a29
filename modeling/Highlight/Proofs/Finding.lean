import Highlight.Proofs.Rule

/-!
# Where rules are found

A search sees the line before the place where it starts, so where a pattern can be read does not
depend on where it is searched from.  All searches that start between a place and the first one
from there on where the pattern can be read find that one.  A pattern is read at a place exactly
when a search from there, which keeps the marks of groups, starts its reading there, and both come
to the same reading.
-/

namespace Highlight

theorem Text.IsBoundary.le_size {line : List Char} {n : Nat} (h : IsBoundary line n) :
  n ≤ size line
  := by
  obtain ⟨front, back, rfl, rfl⟩ := h
  rw [size_append]
  apply Nat.le_add_right

/-! ### First places -/

namespace Cursor

variable {P : Cursor → Prop} {c d e : Cursor}

/-- What is first from a place on is first from any place between. -/
theorem IsFirst.of_le (h : IsFirst P c d) (hce : c ≤ e) (hed : e ≤ d) :
  IsFirst P e d
  where
  le := hed
  holds := h.holds
  first f hef hlt := h.first f (hce.trans hef) hlt

/-- There is only one first place. -/
theorem IsFirst.unique (hd : IsFirst P c d) (he : IsFirst P c e) :
  d = e
  := by
  apply eq_of_offset_eq hd.le he.le
  rcases Nat.lt_trichotomy d.offset e.offset with hlt | heq | hlt
  · apply absurd hd.holds (he.first d hd.le hlt)
  · apply heq
  · apply absurd he.holds (hd.first e he.le hlt)

/-- A line has a place at an offset exactly when it is found from the start. -/
theorem at?_eq_some_iff {line : List Char} {n : Nat} :
  at? line n = some c ↔ start line ≤ c ∧ c.offset = n
  := by
  rw [at?]
  constructor
  · intro h
    split at h
    next hoffset =>
      cases h
      exact ⟨le_moveTo _ n, hoffset⟩
    next => cases h
  · rintro ⟨hle, rfl⟩
    rw [moveTo_offset hle]
    simp

/-- An offset between two characters of a line is that of a place. -/
theorem exists_of_isBoundary {line : List Char} {n : Nat} (h : Text.IsBoundary line n) :
  ∃ c, start line ≤ c ∧ c.offset = n
  := by
  obtain ⟨front, back, rfl, rfl⟩ := h
  exact ⟨behind front back, start_le_behind front back, rfl⟩

end Cursor

namespace Pattern

variable {p : Pattern} {c d : Cursor} {ts us : List Thread} {n : Nat}

/-! ### Threads behind a thread that is completed -/

theorem front_append (p : Pattern) (c : Cursor) (ts us : List Thread) :
  p.front c (ts ++ us)
    = us.foldl (fun front t => p.follow c p.steps.size t front) (p.front c ts)
  := List.foldl_append

/-- What goes on of more threads comes behind what goes on already. -/
theorem exists_onward_front_append (p : Pattern) (c : Cursor) (ts us : List Thread) :
  ∃ new, (p.front c (ts ++ us)).onward.reverse = (p.front c ts).onward.reverse ++ new
  := by
  rw [front_append]
  generalize p.front c ts = front
  induction us generalizing front with
  | nil => exact ⟨[], (List.append_nil _).symm⟩
  | cons u us ih =>
    obtain ⟨new, ho, -⟩ := (grows_follow p c p.steps.size u front).onward
    obtain ⟨new', ho'⟩ := ih (p.follow c p.steps.size u front)
    use new.reverse ++ new'
    rw [List.foldl_cons, ho', ho, List.reverse_append, List.append_assoc]

/-- Threads behind one that completes are not followed. -/
theorem front_append_of_complete (h : (p.front c ts).complete.isSome) (us : List Thread) :
  p.front c (ts ++ us) = p.front c ts
  := by
  rw [front_append]
  induction us with
  | nil => rfl
  | cons u us ih => rw [List.foldl_cons, follow_of_complete _ h, ih]

/-- When one of the threads can be completed, neither the threads behind them nor a reading that has
been found before matter. -/
theorem run_append {best : Option Reading} {before : Option Char} {offset : Nat} {rest : List Char}
    (h : LedBy (fun t => Completes p.steps t.state ⟨before, offset, rest⟩) n ts)
    (us : List Thread) :
  p.run (ts ++ us) best before offset rest = p.run ts none before offset rest
  := by
  induction rest generalizing ts us best before offset with
  | nil =>
    rcases leading_front h with hled | ⟨-, r, hr, -⟩
    · obtain ⟨t, -, hgo⟩ := hled.exists_mem
      apply absurd hgo not_goesOn_nil
    · rw [run, run, front_append_of_complete (by rw [hr]; rfl), hr]
      rfl
  | cons x rest ih =>
    rw [run_cons, run_cons]
    rcases leading_front h with hled | ⟨-, r, hr, -⟩
    · replace hled := hled.congr fun _ => goesOn_iff
      obtain ⟨new, hnew⟩ := exists_onward_front_append p ⟨before, offset, x :: rest⟩ ts us
      have hsingle : ∀ best, p.run _ best _ _ rest = _ := fun best => ih hled []
      rw [List.append_nil] at hsingle
      rw [hnew, ih hled]
      apply (hsingle _).symm
    · rw [front_append_of_complete (by rw [hr]; rfl), hr]
      rfl

/-- A search comes to the reading of its first threads if one of them can be completed. -/
theorem runFrom_eq_run {before : Option Char} {offset : Nat} {rest : List Char}
    (h : LedBy (fun t => Completes p.steps t.state ⟨before, offset, rest⟩) n
      (ts ++ [p.entry offset])) :
  p.runFrom ts before offset rest = p.run (ts ++ [p.entry offset]) none before offset rest
  := by
  induction rest generalizing ts before offset with
  | nil => rw [runFrom, run, Option.or_none]
  | cons x rest ih =>
    rw [runFrom, run_cons]
    rcases leading_front h with hled | ⟨-, r, hr, -⟩
    · replace hled := hled.congr fun _ => goesOn_iff
      split
      next hcomplete =>
        rw [ih (hled.append_right _), run_append hled, hcomplete]
        rfl
      next r hcomplete =>
        rw [hcomplete]
        rfl
    · rw [hr]
      rfl

/-! ### Matching and searching -/

/-- The reading that a search from the cursor on comes to. -/
def find? (p : Pattern) (c : Cursor) : Option Reading :=
  p.runFrom [] c.before c.offset c.rest

/-- A reading at a place is one that a search from there comes to and that starts there. -/
theorem matchAt_eq_filter_find? (p : Pattern) (c : Cursor) :
  p.matchAt c = (p.find? c).filter (·.start = c.offset)
  := by
  rcases Classical.em (Completes p.steps p.start c) with hc | hc
  · have hled : LedBy (fun t => Completes p.steps t.state c) c.offset [p.entry c.offset] :=
      .here hc rfl
    have hfind : p.find? c = p.matchAt c := runFrom_eq_run hled
    obtain ⟨r, hr, hstart⟩ : ∃ r, p.matchAt c = some r ∧ r.start = c.offset := run_led hled
    rw [hfind, hr, Option.filter_some, if_pos (decide_eq_true hstart)]
  · rw [matchAt_eq_none_iff.mpr hc]
    rcases @runFrom_dead p [] c.before c.offset c.rest nofun with ⟨d, r, hd, hr, hstart⟩ | ⟨-, hr⟩
    · have hne : r.start ≠ c.offset := by
        intro heq
        obtain rfl := Cursor.eq_of_offset_eq (le_refl c) hd.le (heq.symm.trans hstart)
        apply hc hd.holds
      rw [find?, hr, Option.filter_some, if_neg fun heq => hne (of_decide_eq_true heq)]
    · rw [find?, hr]
      rfl

/-- Where a pattern is read, a search finds it at once. -/
theorem search_eq_of_matchAt {r : Reading} (h : p.matchAt c = some r) :
  p.search c = some c.offset
  := by
  rw [matchAt_eq_filter_find?, Option.filter_eq_some_iff] at h
  obtain ⟨hfind, hstart⟩ := h
  rw [search]
  change (p.find? c).map _ = _
  rw [hfind, Option.map_some, of_decide_eq_true hstart]

/-- A search finds the first place where the pattern is read. -/
theorem search_eq_some_iff :
  p.search c = some n ↔ ∃ d, Cursor.IsFirst (fun d => (p.matchAt d).isSome) c d ∧ d.offset = n
  := by
  constructor
  · intro h
    rcases p.search_spec c with ⟨d, hd, hsearch⟩ | ⟨-, hsearch⟩
    · rw [hsearch] at h
      exact ⟨d, hd, Option.some.inj h⟩
    · rw [hsearch] at h
      cases h
  · rintro ⟨d, hd, rfl⟩
    rcases p.search_spec c with ⟨e, he, hsearch⟩ | ⟨hnone, -⟩
    · rw [hsearch, hd.unique he]
    · have hsome := hd.holds
      rw [hnone d hd.le] at hsome
      cases hsome

/-- A search finds nothing exactly if the pattern is read nowhere further on. -/
theorem search_eq_none_iff :
  p.search c = none ↔ ∀ d, c ≤ d → p.matchAt d = none
  := by
  rcases p.search_spec c with ⟨d, hd, hsearch⟩ | ⟨hnone, hsearch⟩
  · rw [hsearch]
    apply iff_of_false nofun
    intro hnone
    have hsome := hd.holds
    rw [hnone d hd.le] at hsome
    cases hsome
  · rw [hsearch]
    apply iff_of_true rfl hnone

/-- The form of the pattern reads a piece of the line from the offset on. -/
def ReadsAt (p : Pattern) (line : List Char) (n : Nat) : Prop :=
  ∃ c, Cursor.start line ≤ c ∧ c.offset = n ∧ ∃ ms d, p.form.Reads c ms d

/-- A pattern is read at an offset exactly if it is read at its place. -/
theorem readsAt_offset {line : List Char} (hc : Cursor.start line ≤ c) :
  p.ReadsAt line c.offset ↔ (p.matchAt c).isSome
  := by
  rw [matchAt_isSome_iff_reads]
  constructor
  · rintro ⟨d, hd, hoffset, h⟩
    rwa [Cursor.eq_of_offset_eq hc hd hoffset.symm]
  · intro h
    exact ⟨c, hc, rfl, h⟩

/-- An offset at which a pattern is read is that of a place. -/
theorem ReadsAt.exists_place {line : List Char} (h : p.ReadsAt line n) :
  ∃ c, Cursor.start line ≤ c ∧ c.offset = n ∧ (p.matchAt c).isSome
  := by
  obtain ⟨c, hc, rfl, hreads⟩ := h
  exact ⟨c, hc, rfl, matchAt_isSome_iff_reads.mpr hreads⟩

end Pattern

namespace Rule

variable {r : Rule} {line : List Char} {c : Cursor} {s s' q : Nat}

/-! ### Searching a line -/

/-- From offset `s` of the line on, the pattern of the rule is first read at offset `q`. -/
structure FirstReadAt (r : Rule) (line : List Char) (s q : Nat) : Prop where
  le : s ≤ q
  reads : r.pattern.ReadsAt line q
  first : ∀ n, s ≤ n → n < q → ¬r.pattern.ReadsAt line n

/-- What is first read from a place on is first read from every place up to it. -/
theorem FirstReadAt.of_le (h : r.FirstReadAt line s q) (hs : s ≤ s') (hq : s' ≤ q) :
  r.FirstReadAt line s' q
  where
  le := hq
  reads := h.reads
  first n hn := h.first n (hs.trans hn)

theorem FirstReadAt.isBoundary (h : r.FirstReadAt line s q) :
  Text.IsBoundary line q
  := by
  obtain ⟨c, hc, rfl, -⟩ := h.reads
  apply Cursor.isBoundary_of_start_le hc

/-- Searching from an offset is searching from its place. -/
theorem findFrom_offset (hc : Cursor.start line ≤ c) :
  r.findFrom line c.offset = r.search c
  := by rw [findFrom, Cursor.at?_eq_some_iff.mpr ⟨hc, rfl⟩, Option.bind_some]

/-- Trying a rule at an offset is trying it at its place. -/
theorem matchFrom_offset (hc : Cursor.start line ≤ c) :
  r.matchFrom line c.offset = r.matchAt c
  := by rw [matchFrom, Cursor.at?_eq_some_iff.mpr ⟨hc, rfl⟩, Option.bind_some]

/-- A search from a place finds where the pattern is first read. -/
theorem findFrom_eq_some_iff (hs : Text.IsBoundary line s) :
  r.findFrom line s = some q ↔ r.FirstReadAt line s q
  := by
  obtain ⟨c, hc, rfl⟩ := Cursor.exists_of_isBoundary hs
  rw [findFrom_offset hc, search, Pattern.search_eq_some_iff]
  constructor
  · rintro ⟨d, hd, rfl⟩
    refine ⟨Cursor.offset_le hd.le, (Pattern.readsAt_offset (hc.trans hd.le)).mpr hd.holds, ?_⟩
    intro n hn hlt hreads
    obtain ⟨e, he, rfl, hsome⟩ := hreads.exists_place
    apply hd.first e (Cursor.le_of_offset_le hc he hn) hlt hsome
  · rintro ⟨hle, hreads, hfirst⟩
    obtain ⟨d, hd, rfl, hsome⟩ := hreads.exists_place
    use d
    refine ⟨⟨Cursor.le_of_offset_le hc hd hle, hsome, ?_⟩, rfl⟩
    intro e he hlt hsome
    apply hfirst e.offset (Cursor.offset_le he) hlt
    apply (Pattern.readsAt_offset (hc.trans he)).mpr hsome

/-- A search from a place finds nothing exactly if the pattern is read nowhere from there on. -/
theorem findFrom_eq_none_iff (hs : Text.IsBoundary line s) :
  r.findFrom line s = none ↔ ∀ n, s ≤ n → ¬r.pattern.ReadsAt line n
  := by
  obtain ⟨c, hc, rfl⟩ := Cursor.exists_of_isBoundary hs
  rw [findFrom_offset hc, search, Pattern.search_eq_none_iff]
  constructor
  · intro hnone n hn hreads
    obtain ⟨d, hd, rfl, hsome⟩ := hreads.exists_place
    rw [hnone d (Cursor.le_of_offset_le hc hd hn)] at hsome
    cases hsome
  · intro hnone d hd
    rw [← Option.not_isSome_iff_eq_none]
    intro hsome
    apply hnone d.offset (Cursor.offset_le hd)
    apply (Pattern.readsAt_offset (hc.trans hd)).mpr hsome

/-! ### Searching and matching -/

theorem changes_of_ne_stay {a : Action} (h : a ≠ .stay) :
  a = .pop ∨ ∃ mode, a = .push mode
  := by
  cases a with
  | stay => apply absurd rfl h
  | push mode => exact .inr ⟨mode, rfl⟩
  | pop => exact .inl rfl

/-- A search from a place finds where the pattern is first read, and so does every search that
starts in between; if it finds nothing, neither does any search behind it.  Where the rule applies,
a search finds the place itself.  The token lies behind the place, and it ends there only if the
rule changes the mode. -/
theorem findFrom_coherent (r : Rule) (line : List Char) (hs : Text.IsBoundary line s) :
  (∀ q, r.findFrom line s = some q →
    r.FirstReadAt line s q ∧ q ≤ Text.size line ∧ Text.IsBoundary line q ∧
      ∀ s', Text.IsBoundary line s' → s ≤ s' → s' ≤ q → r.findFrom line s' = some q) ∧
  (r.findFrom line s = none →
    (∀ n, s ≤ n → ¬r.pattern.ReadsAt line n) ∧
      ∀ s', Text.IsBoundary line s' → s ≤ s' → r.findFrom line s' = none) ∧
  ∀ m, r.matchFrom line s = some m →
    r.findFrom line s = some s ∧ m.start = s ∧ s ≤ m.tokenStart ∧ m.tokenStart ≤ m.tokenStop ∧
      m.tokenStop ≤ Text.size line ∧ Text.IsBoundary line m.tokenStart ∧
      Text.IsBoundary line m.tokenStop ∧
      (m.tokenStop = s → r.action = .pop ∨ ∃ mode, r.action = .push mode)
  := by
  refine ⟨?_, ?_, ?_⟩
  · intro q hfind
    have hfirst := (findFrom_eq_some_iff hs).mp hfind
    refine ⟨hfirst, hfirst.isBoundary.le_size, hfirst.isBoundary, ?_⟩
    intro s' hs' hle hq
    apply (findFrom_eq_some_iff hs').mpr (hfirst.of_le hle hq)
  · intro hfind
    have hnone := (findFrom_eq_none_iff hs).mp hfind
    use hnone
    intro s' hs' hle
    apply (findFrom_eq_none_iff hs').mpr
    intro n hn
    apply hnone n (hle.trans hn)
  · intro m hmatch
    obtain ⟨c, hc, rfl⟩ := Cursor.exists_of_isBoundary hs
    rw [matchFrom_offset hc] at hmatch
    obtain ⟨whole, hwhole, -⟩ := exists_reading hmatch
    obtain ⟨hstart, ⟨a, b, ha, hab, hstart', hstop⟩, haction⟩ := matches_of_matchAt hmatch
    have hb := hc.trans (ha.trans hab)
    rw [findFrom_offset hc, search, Pattern.search_eq_of_matchAt hwhole, hstart', hstop]
    refine ⟨rfl, hstart, Cursor.offset_le ha, Cursor.offset_le hab,
      (Cursor.isBoundary_of_start_le hb).le_size, Cursor.isBoundary_of_start_le (hc.trans ha),
      Cursor.isBoundary_of_start_le hb, ?_⟩
    intro hempty
    apply changes_of_ne_stay (haction (hstop.trans hempty))

/-- A number between spaces, which is searched from the start of the line and from the space in
front of it, where the rule applies. -/
theorem findFrom_coherent_number :
  let r : Rule :=
    { name := "number", kind := .number, group := some 1,
      pattern := .ofForm (.inSequence
        [.alt (.assertion .textStart) (.set .space), .group 1 (.many1 (.set .digit)),
          .alt (.set .space) (.assertion .textEnd)]) }
  let line := "x 12 y".toList
  Text.IsBoundary line 0 ∧ Text.IsBoundary line 1 ∧
    r.findFrom line 0 = some 1 ∧ r.FirstReadAt line 0 1 ∧
    r.matchFrom line 1 = some ⟨1, 2, 4⟩ ∧ r.findFrom line 1 = some 1 ∧ 4 ≤ Text.size line
  := by
  intro r line
  have h₀ : Text.IsBoundary line 0 := ⟨[], line, rfl, rfl⟩
  have h₁ : Text.IsBoundary line 1 := ⟨['x'], " 12 y".toList, rfl, rfl⟩
  have hfind : r.findFrom line 0 = some 1 := by decide
  have hmatch : r.matchFrom line 1 = some ⟨1, 2, 4⟩ := by decide
  have hfirst := ((findFrom_coherent r line h₀).1 1 hfind).1
  obtain ⟨hfound, -, -, -, hstop, -⟩ := (findFrom_coherent r line h₁).2.2 _ hmatch
  exact ⟨h₀, h₁, hfind, hfirst, hmatch, hfound, hstop⟩

end Rule

end Highlight
