import Highlight.Proofs.Form
import Highlight.Proofs.Search
import Highlight.Rule

/-!
# Where rules apply

On every way that a form reads, a group that captures at all captures a piece between the ends of
the way.  So the token of a rule lies on the line behind the place where the rule is tried.
-/

namespace Highlight

namespace Pattern

theorem opening_beq_closing (group index : Nat) :
  (Mark.opening group == Mark.closing index) = false
  := beq_eq_false_iff_ne.mpr nofun

theorem closing_beq_opening (group index : Nat) :
  (Mark.closing group == Mark.opening index) = false
  := beq_eq_false_iff_ne.mpr nofun

theorem opening_beq_opening (group index : Nat) :
  (Mark.opening group == Mark.opening index) = (group == index)
  := by
  rw [Bool.eq_iff_iff]
  simp

theorem closing_beq_closing (group index : Nat) :
  (Mark.closing group == Mark.closing index) = (group == index)
  := by
  rw [Bool.eq_iff_iff]
  simp

/-- The last piece captured by the group lies between two places, or there is none. -/
def CapturesIn (group : Nat) (c : Cursor) (ms : Marks) (d : Cursor) : Prop :=
  ms.reverse.lookup (.opening group) = none ∧ ms.reverse.lookup (.closing group) = none ∨
    ∃ a b, c ≤ a ∧ a ≤ b ∧ b ≤ d ∧ ms.reverse.lookup (.opening group) = some a.offset ∧
      ms.reverse.lookup (.closing group) = some b.offset

/-- The way goes forward, and what groups capture lies on it. -/
structure Way.Nested (R : Way) : Prop where
  le : ∀ {c ms d}, R c ms d → c ≤ d
  captures : ∀ {c ms d}, R c ms d → ∀ group, CapturesIn group c ms d

namespace Way.Nested

variable {R S : Way}

theorem stay :
  Nested .stay
  where
  le := by
    rintro c _ _ ⟨rfl, rfl⟩
    apply le_refl
  captures := by
    rintro c _ _ ⟨rfl, rfl⟩ group
    exact .inl ⟨rfl, rfl⟩

theorem take (s : CharSet) :
  Nested (.take s)
  where
  le := by
    rintro c _ _ ⟨rfl, x, rest, hrest, -, rfl⟩
    apply Cursor.le_past hrest
  captures := by
    rintro c _ _ ⟨rfl, -⟩ group
    exact .inl ⟨rfl, rfl⟩

theorem check (a : Assertion) :
  Nested (.check a)
  where
  le := by
    rintro c _ _ ⟨rfl, -, rfl⟩
    apply le_refl
  captures := by
    rintro c _ _ ⟨rfl, -⟩ group
    exact .inl ⟨rfl, rfl⟩

/-- Two nested ways in a row are nested. -/
theorem andThen (hR : R.Nested) (hS : S.Nested) :
  (R.andThen S).Nested
  where
  le := by
    rintro c _ d ⟨ms₁, e, ms₂, h₁, h₂, rfl⟩
    exact (hR.le h₁).trans (hS.le h₂)
  captures := by
    rintro c _ d ⟨ms₁, e, ms₂, h₁, h₂, rfl⟩ group
    rw [CapturesIn, List.reverse_append, List.lookup_append, List.lookup_append]
    rcases hS.captures h₂ group with ⟨ho, hc⟩ | ⟨a, b, ha, hab, hb, ho, hc⟩
    · rw [ho, hc, Option.none_or, Option.none_or]
      apply (hR.captures h₁ group).imp_right
      rintro ⟨a, b, ha, hab, hb, h⟩
      exact ⟨a, b, ha, hab, hb.trans (hS.le h₂), h⟩
    · right
      rw [ho, hc]
      exact ⟨a, b, (hR.le h₁).trans ha, hab, hb, rfl, rfl⟩

/-- A choice of nested ways is nested. -/
theorem orElse (hR : R.Nested) (hS : S.Nested) :
  (R.orElse S).Nested
  where
  le h := h.elim hR.le hS.le
  captures h := h.elim hR.captures hS.captures

/-- A nested way repeated is nested. -/
theorem iterate (hR : R.Nested) (n : Nat) :
  (R.iterate n).Nested
  := by
  induction n with
  | zero => apply stay
  | succ n ih => apply hR.andThen ih

/-- A nested way repeated within bounds is nested. -/
theorem times (hR : R.Nested) (least : Nat) (most : Option Nat) :
  (R.times least most).Nested
  where
  le := by
    rintro c ms d ⟨n, -, -, h⟩
    exact (hR.iterate n).le h
  captures := by
    rintro c ms d ⟨n, -, -, h⟩
    exact (hR.iterate n).captures h

/-- A group captures what is read between its marks. -/
theorem group (hR : R.Nested) (index : Nat) :
  Nested ((Way.mark (.opening index)).andThen (R.andThen (.mark (.closing index))))
  where
  le := by
    rintro c _ _ ⟨_, _, _, ⟨rfl, rfl⟩, ⟨_, _, _, h, ⟨rfl, rfl⟩, rfl⟩, rfl⟩
    apply hR.le h
  captures := by
    rintro _ _ d ⟨_, c, _, ⟨rfl, rfl⟩, ⟨ms, _, _, h, ⟨rfl, rfl⟩, rfl⟩, rfl⟩ group
    have hmarks :
        ([(Mark.opening index, c.offset)] ++ (ms ++ [(Mark.closing index, d.offset)])).reverse
          = (Mark.closing index, d.offset) :: (ms.reverse ++ [(Mark.opening index, c.offset)]) := by
      simp
    have hlookup := hR.captures h group
    rw [CapturesIn, hmarks]
    simp only [List.lookup_cons, List.lookup_append, List.lookup_nil, opening_beq_closing,
      closing_beq_opening, opening_beq_opening, closing_beq_closing]
    cases hgroup : group == index with
    | true =>
      right
      rcases hlookup with ⟨ho, -⟩ | ⟨a, b, ha, hab, hb, ho, -⟩
      · rw [ho, Option.none_or]
        exact ⟨c, d, le_refl c, hR.le h, le_refl d, rfl, rfl⟩
      · rw [ho, Option.some_or]
        exact ⟨a, d, ha, hab.trans hb, le_refl d, rfl, rfl⟩
    | false =>
      simp only [Option.or_none]
      apply hlookup

end Way.Nested

/-- Forms capture pieces inside of what they read. -/
theorem Form.nested_reads (f : Form) :
  f.Reads.Nested
  := by
  induction f with
  | empty => exact .stay
  | set s => exact .take s
  | assertion a => exact .check a
  | group index f ih => apply ih.group index
  | seq f g ihf ihg => apply ihf.andThen ihg
  | alt f g ihf ihg => apply ihf.orElse ihg
  | times f least most greedy ih => apply ih.times least most

variable {p : Pattern} {c : Cursor} {r : Reading}

/-- A reading at a place is one of the ways that the form of the pattern reads. -/
theorem reads_of_matchAt (h : p.matchAt c = some r) :
  r.start = c.offset ∧ ∃ d, p.form.Reads c r.marks.reverse d ∧ r.stop = d.offset
  := by
  obtain ⟨hstart, n, d, path, hstop⟩ := answers_matchAt h
  exact ⟨hstart, d, reads_of_path path, hstop⟩

/-- There is a reading at a place exactly when the form of the pattern reads from there. -/
theorem matchAt_isSome_iff_reads :
  (p.matchAt c).isSome ↔ ∃ ms d, p.form.Reads c ms d
  := matchAt_isSome_iff.trans completes_start_iff

end Pattern

namespace Rule

variable {r : Rule} {c : Cursor} {m : RuleMatch}

/-- A rule is not tried where its pattern is not read. -/
theorem matchAt_eq_none (h : r.pattern.matchAt c = none) :
  r.matchAt c = none
  := by rw [matchAt, h]

theorem isSome_pattern_matchAt (h : (r.matchAt c).isSome) :
  (r.pattern.matchAt c).isSome
  := by
  by_contra hnone
  rw [matchAt_eq_none (Option.not_isSome_iff_eq_none.mp hnone)] at h
  cases h

/-- A rule that changes the mode applies wherever its pattern is read, if no group bounds its
token. -/
theorem isSome_matchAt (h : (r.pattern.matchAt c).isSome) (hgroup : r.group = none)
    (haction : r.action ≠ .stay) :
  (r.matchAt c).isSome
  := by
  obtain ⟨whole, hwhole⟩ := Option.isSome_iff_exists.mp h
  have hspan : r.tokenSpan? c.offset whole = some ⟨c.offset, whole.stop⟩ := by
    rw [tokenSpan?, hgroup]
  rw [matchAt, hwhole]
  simp only [hspan]
  rw [if_neg]
  · rfl
  · rintro ⟨-, hstay⟩
    apply haction hstay

/-- What is known of a match of a rule tried at a place. -/
structure Matches (r : Rule) (c : Cursor) (m : RuleMatch) : Prop where
  start : m.start = c.offset
  token : ∃ a b, c ≤ a ∧ a ≤ b ∧ m.tokenStart = a.offset ∧ m.tokenStop = b.offset
  action : m.tokenStop = c.offset → r.action ≠ .stay

/-- A match classifies a piece of the preferred reading. -/
theorem exists_reading (h : r.matchAt c = some m) :
  ∃ whole, r.pattern.matchAt c = some whole ∧
    r.tokenSpan? c.offset whole = some ⟨m.tokenStart, m.tokenStop⟩ ∧
    m.start = c.offset ∧ ¬(m.tokenStop = c.offset ∧ r.action = .stay)
  := by
  rw [matchAt] at h
  split at h
  next => cases h
  next whole hwhole =>
    split at h
    next => cases h
    next token htoken =>
      split at h
      next => cases h
      next hstay =>
        cases h
        exact ⟨whole, hwhole, htoken, rfl, hstay⟩

/-- What a rule answers is a match. -/
theorem matches_of_matchAt (h : r.matchAt c = some m) :
  r.Matches c m
  := by
  obtain ⟨whole, hwhole, htoken, hstart, hstay⟩ := exists_reading h
  obtain ⟨-, d, hreads, hstop⟩ := Pattern.reads_of_matchAt hwhole
  have hnested := Pattern.Form.nested_reads r.pattern.form
  refine ⟨hstart, ?_, fun hempty haction => hstay ⟨hempty, haction⟩⟩
  rw [tokenSpan?] at htoken
  split at htoken
  case h_1 | h_2 =>
    simp only [Option.some.injEq, Span.mk.injEq] at htoken
    exact ⟨c, d, le_refl c, hnested.le hreads, htoken.1.symm, htoken.2.symm.trans hstop⟩
  case h_3 index _ _ =>
    rcases hnested.captures hreads index with ⟨ho, -⟩ | ⟨a, b, ha, hab, -, ho, hc⟩
    · rw [List.reverse_reverse] at ho
      simp [Reading.span?, ho] at htoken
    · rw [List.reverse_reverse] at ho hc
      simp only [Reading.span?, ho, hc] at htoken
      have hspan := Span.mk.inj (Option.some.inj htoken)
      exact ⟨a, b, ha, hab, hspan.1.symm, hspan.2.symm⟩

end Rule

end Highlight
