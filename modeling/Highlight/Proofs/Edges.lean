import Highlight.Proofs.Language
import Highlight.Proofs.Ranges
import Highlight.Proofs.Rule

/-!
# The ends of what forms read

What a form asks for at its ends says where its pieces can start and end, and the sets of characters
in it say which characters its pieces can have.  This is seen from the form alone, without reading
anything.
-/

namespace Highlight

namespace Cursor

open Pattern.Form

variable {s : CharSet} {c d e : Cursor} {x : Char} {rest : List Char}

theorem spans_runs_refl (s : CharSet) (c : Cursor) :
  Spans (runs s) c c
  := ⟨[], nofun, rfl, rfl⟩

/-- A character of a set is a run of the set. -/
theorem spans_runs_past (hrest : c.rest = x :: rest) (hx : s.contains x) :
  Spans (runs s) c (c.past x rest)
  := by
  refine ⟨[x], ?_, hrest, (c.along_cons x [] rest).symm⟩
  intro y hy
  rwa [List.mem_singleton.mp hy]

/-- Two runs of a set one after another are a run of it. -/
theorem Spans.trans (hd : Spans (runs s) c d) (he : Spans (runs s) d e) :
  Spans (runs s) c e
  := by
  obtain ⟨w, hw, hspans⟩ := spans_mul.mpr ⟨d, hd, he⟩
  obtain ⟨u, hu, v, hv, rfl⟩ := Language.mem_mul.mp hw
  refine ⟨u ++ v, ?_, hspans⟩
  intro y hy
  apply (List.mem_append.mp hy).elim (hu y) (hv y)

/-- The character behind a place inside the piece belongs to the set. -/
theorem Spans.exists_head (h : Spans (runs s) c d) (he : c ≤ e) (hlt : e.offset < d.offset) :
  ∃ x rest, e.rest = x :: rest ∧ s.contains x
  := by
  obtain ⟨w, hw, hrest, hd⟩ := h
  obtain ⟨v, hv, hdv⟩ := le_of_offset_le he ⟨w, hrest, hd⟩ hlt.le
  obtain ⟨u, hu, -⟩ := he
  have hwuv : w = u ++ v := by
    rw [hrest, hv, ← List.append_assoc] at hu
    apply List.append_cancel_right hu
  cases v with
  | nil =>
    rw [hdv] at hlt
    apply absurd hlt (Nat.lt_irrefl _)
  | cons x v =>
    refine ⟨x, v ++ d.rest, hv, hw x ?_⟩
    rw [hwuv]
    apply List.mem_append_right u List.mem_cons_self

end Cursor

namespace Pattern

open Way

/-! ### Pieces -/

/-- The form reads the piece between the places. -/
def Form.Takes (f : Form) (c d : Cursor) : Prop :=
  ∃ ms, f.Reads c ms d

namespace Form

variable {f g : Form} {c d e : Cursor}

theorem takes_empty :
  empty.Takes c d ↔ d = c
  := by
  constructor
  · rintro ⟨_, -, hd⟩
    apply hd
  · intro hd
    exact ⟨[], rfl, hd⟩

/-- A set takes one of its characters. -/
theorem takes_set {s : CharSet} :
  (set s).Takes c d ↔ ∃ x rest, c.rest = x :: rest ∧ s.contains x ∧ d = c.past x rest
  := by
  constructor
  · rintro ⟨_, -, h⟩
    apply h
  · intro h
    exact ⟨[], rfl, h⟩

theorem takes_assertion {a : Assertion} :
  (assertion a).Takes c d ↔ a.holds c ∧ d = c
  := exists_check

theorem takes_group {index : Nat} :
  (group index f).Takes c d ↔ f.Takes c d
  := by
  constructor
  · rintro ⟨_, _, _, _, ⟨-, rfl⟩, ⟨ms, _, _, h, ⟨-, rfl⟩, -⟩, -⟩
    exact ⟨ms, h⟩
  · rintro ⟨ms, h⟩
    exact ⟨_, _, _, _, ⟨rfl, rfl⟩, ⟨ms, _, _, h, ⟨rfl, rfl⟩, rfl⟩, rfl⟩

/-- A sequence takes what its first part takes up to a place, and its second part from there on. -/
theorem takes_seq :
  (seq f g).Takes c d ↔ ∃ e, f.Takes c e ∧ g.Takes e d
  := exists_andThen

theorem takes_alt :
  (alt f g).Takes c d ↔ f.Takes c d ∨ g.Takes c d
  := exists_or

theorem takes_inSequence_cons {fs : List Form} :
  (inSequence (f :: fs)).Takes c d ↔ ∃ e, f.Takes c e ∧ (inSequence fs).Takes e d
  := by
  rw [Takes, reads_inSequence_cons]
  apply exists_andThen

/-- Two sequences take one piece after another. -/
theorem takes_inSequence_append {fs gs : List Form} :
  (inSequence (fs ++ gs)).Takes c d ↔
    ∃ e, (inSequence fs).Takes c e ∧ (inSequence gs).Takes e d
  := by
  rw [Takes, reads_inSequence_append]
  apply exists_andThen

theorem takes_inSequence_singleton :
  (inSequence [f]).Takes c d ↔ f.Takes c d
  := Iff.rfl

/-- A form without assertions takes the pieces that its texts span. -/
theorem takes_of_asksNothing (h : f.asksNothing) :
  f.Takes c d ↔ Cursor.Spans f.texts c d
  := spells_texts h c d

/-- A form takes pieces forward. -/
theorem Takes.le (h : f.Takes c d) :
  c ≤ d
  := by
  obtain ⟨ms, h⟩ := h
  apply f.nested_reads.le h

/-- What the assertions are about is between them. -/
theorem takes_between {a b : Assertion} {fs : List Form} (h : (inSequence fs).asksNothing) :
  (inSequence (assertion a :: (fs ++ [assertion b]))).Takes c d ↔
    a.holds c ∧ Cursor.Spans (inSequence fs).texts c d ∧ b.holds d
  := by
  rw [takes_inSequence_cons]
  simp only [takes_assertion, takes_inSequence_append, takes_inSequence_singleton,
    takes_of_asksNothing h]
  constructor
  · rintro ⟨_, ⟨ha, rfl⟩, _, hspans, hb, rfl⟩
    use ha, hspans, hb
  · rintro ⟨ha, hspans, hb⟩
    exact ⟨_, ⟨ha, rfl⟩, _, hspans, hb, rfl⟩

variable {least : Nat} {most : Option Nat} {greedy : Bool}

/-- Of pieces that are not optional there is a first one. -/
theorem Takes.exists_first (hleast : least ≠ 0) (h : (times f least most greedy).Takes c d) :
  ∃ e, f.Takes c e ∧ e ≤ d
  := by
  obtain ⟨_, n, hn, -, h⟩ := h
  obtain ⟨n, rfl⟩ := Nat.exists_eq_succ_of_ne_zero (Nat.ne_of_gt (by omega : n > 0))
  obtain ⟨ms, e, _, hfirst, hrest, -⟩ := h
  exact ⟨e, ⟨ms, hfirst⟩, (f.nested_reads.iterate n).le hrest⟩

/-- Of pieces that are not optional there is a last one. -/
theorem Takes.exists_last (hleast : least ≠ 0) (h : (times f least most greedy).Takes c d) :
  ∃ e, f.Takes e d
  := by
  obtain ⟨_, n, hn, -, h⟩ := h
  obtain ⟨n, rfl⟩ := Nat.exists_eq_succ_of_ne_zero (Nat.ne_of_gt (by omega : n > 0))
  rw [iterate_succ] at h
  obtain ⟨_, e, ms, -, hlast, -⟩ := h
  exact ⟨e, ms, hlast⟩

/-- What each piece keeps is kept by any number of pieces. -/
theorem Takes.keep {P : Cursor → Prop} (hf : ∀ {c d}, f.Takes c d → P c → P d)
    (h : (times f least most greedy).Takes c d) (hc : P c) :
  P d
  := by
  obtain ⟨ms, n, -, -, h⟩ := h
  induction n generalizing c ms with
  | zero =>
    obtain ⟨-, rfl⟩ := h
    apply hc
  | succ n ih =>
    obtain ⟨ms, e, ms', hfirst, hrest, -⟩ := h
    apply ih (hf ⟨ms, hfirst⟩ hc) ms' hrest

/-- A form that takes text takes at least a character. -/
theorem Takes.offset_lt (htext : f.takesText) (h : f.Takes c d) :
  c.offset < d.offset
  := by
  induction f generalizing c d with
  | empty | assertion => cases htext
  | set s =>
    obtain ⟨x, rest, -, -, rfl⟩ := takes_set.mp h
    apply c.offset_lt_past
  | group index f ih => apply ih htext (takes_group.mp h)
  | seq f g ihf ihg =>
    obtain ⟨e, hf, hg⟩ := takes_seq.mp h
    rcases Bool.or_eq_true_iff.mp htext with htext | htext
    · apply Nat.lt_of_lt_of_le (ihf htext hf) (Cursor.offset_le hg.le)
    · apply Nat.lt_of_le_of_lt (Cursor.offset_le hf.le) (ihg htext hg)
  | alt f g ihf ihg =>
    obtain ⟨hf, hg⟩ := Bool.and_eq_true_iff.mp htext
    apply (takes_alt.mp h).elim (ihf hf) (ihg hg)
  | times f least most greedy ih =>
    obtain ⟨hleast, htext⟩ := Bool.and_eq_true_iff.mp htext
    obtain ⟨e, hfirst, hle⟩ := h.exists_first (bne_iff_ne.mp hleast)
    apply Nat.lt_of_lt_of_le (ih htext hfirst) (Cursor.offset_le hle)

/-! ### The characters of pieces -/

/-- No character of a piece of the form belongs to the set. -/
def avoids (s : CharSet) : Form → Bool
  | empty | assertion _ => true
  | set t => t.avoids s
  | group _ f => f.avoids s
  | seq f g | alt f g => f.avoids s && g.avoids s
  | times f _ _ _ => f.avoids s

/-- A form that avoids a set takes none of its characters. -/
theorem Takes.spans_runs {s : CharSet} (havoids : f.avoids s) (h : f.Takes c d) :
  Cursor.Spans (runs s.compl) c d
  := by
  induction f generalizing c d with
  | empty =>
    rw [takes_empty.mp h]
    apply Cursor.spans_runs_refl
  | set t =>
    obtain ⟨x, rest, hrest, hx, rfl⟩ := takes_set.mp h
    apply Cursor.spans_runs_past hrest
    rw [CharSet.contains, CharSet.not_contains_of_avoids havoids hx, Bool.not_false]
  | assertion a =>
    rw [(takes_assertion.mp h).2]
    apply Cursor.spans_runs_refl
  | group index f ih => apply ih havoids (takes_group.mp h)
  | seq f g ihf ihg =>
    obtain ⟨hf, hg⟩ := Bool.and_eq_true_iff.mp havoids
    obtain ⟨e, hfe, hge⟩ := takes_seq.mp h
    apply (ihf hf hfe).trans (ihg hg hge)
  | alt f g ihf ihg =>
    obtain ⟨hf, hg⟩ := Bool.and_eq_true_iff.mp havoids
    apply (takes_alt.mp h).elim (ihf hf) (ihg hg)
  | times f least most greedy ih =>
    apply h.keep _ (Cursor.spans_runs_refl _ c)
    intro d e hf hspans
    apply hspans.trans (ih havoids hf)

end Form

/-! ### Edges -/

/-- A property of places that is granted by what a pattern asks for at a place. -/
structure Edge where
  /-- The place has the property. -/
  Holds : Cursor → Prop
  /-- The property is granted where the assertion holds. -/
  byAssertion : Assertion → Bool
  /-- The property is granted in front of each character of the set. -/
  byNext : CharSet → Bool
  /-- The property is granted behind each character of the set. -/
  byLast : CharSet → Bool
  holds_of_assertion : ∀ {a c}, byAssertion a → a.holds c → Holds c
  holds_of_next : ∀ {s x rest} {c : Cursor}, byNext s → s.contains x → c.rest = x :: rest → Holds c
  holds_past : ∀ {s x rest} {c : Cursor}, byLast s → s.contains x → c.rest = x :: rest →
    Holds (c.past x rest)

namespace Form

variable {edge : Edge} {f g : Form} {c d : Cursor}

/-- Every piece of the form starts at the edge or takes nothing. -/
def mayOpenAt (edge : Edge) : Form → Bool
  | empty | assertion _ => true
  | set s => edge.byNext s
  | group _ f => f.mayOpenAt edge
  | seq f g | alt f g => f.mayOpenAt edge && g.mayOpenAt edge
  | times f _ _ _ => f.mayOpenAt edge

/-- Every piece of the form starts at the edge. -/
def opensAt (edge : Edge) : Form → Bool
  | empty => false
  | set s => edge.byNext s
  | assertion a => edge.byAssertion a
  | group _ f => f.opensAt edge
  | seq f g => f.opensAt edge || f.mayOpenAt edge && g.opensAt edge
  | alt f g => f.opensAt edge && g.opensAt edge
  | times f min _ _ => min != 0 && f.opensAt edge

/-- Every piece of the form that starts at the edge ends at the edge. -/
def keeps (edge : Edge) : Form → Bool
  | empty | assertion _ => true
  | set s => edge.byLast s
  | group _ f => f.keeps edge
  | seq f g | alt f g => f.keeps edge && g.keeps edge
  | times f _ _ _ => f.keeps edge

/-- Every piece of the form ends at the edge. -/
def closesAt (edge : Edge) : Form → Bool
  | empty => false
  | set s => edge.byLast s
  | assertion a => edge.byAssertion a
  | group _ f => f.closesAt edge
  | seq f g => g.closesAt edge || f.closesAt edge && g.keeps edge
  | alt f g => f.closesAt edge && g.closesAt edge
  | times f min _ _ => min != 0 && f.closesAt edge

/-- A form that opens at an edge, if it takes anything, takes no piece that starts elsewhere. -/
theorem Takes.holds_of_mayOpenAt (hopens : f.mayOpenAt edge) (h : f.Takes c d) :
  edge.Holds c ∨ d = c
  := by
  induction f generalizing c d with
  | empty => exact .inr (takes_empty.mp h)
  | set s =>
    obtain ⟨x, rest, hrest, hx, -⟩ := takes_set.mp h
    exact .inl (edge.holds_of_next hopens hx hrest)
  | assertion a => exact .inr (takes_assertion.mp h).2
  | group index f ih => apply ih hopens (takes_group.mp h)
  | seq f g ihf ihg =>
    obtain ⟨hf, hg⟩ := Bool.and_eq_true_iff.mp hopens
    obtain ⟨e, hfe, hge⟩ := takes_seq.mp h
    rcases ihf hf hfe with hholds | rfl
    · exact .inl hholds
    · apply ihg hg hge
  | alt f g ihf ihg =>
    obtain ⟨hf, hg⟩ := Bool.and_eq_true_iff.mp hopens
    apply (takes_alt.mp h).elim (ihf hf) (ihg hg)
  | times f least most greedy ih =>
    apply h.keep (P := fun e => edge.Holds c ∨ e = c) _ (.inr rfl)
    rintro e d hf (hholds | rfl)
    · exact .inl hholds
    · apply ih hopens hf

/-- A form that opens at an edge takes only pieces that start there. -/
theorem Takes.holds_of_opensAt (hopens : f.opensAt edge) (h : f.Takes c d) :
  edge.Holds c
  := by
  induction f generalizing c d with
  | empty => cases hopens
  | set s =>
    obtain ⟨x, rest, hrest, hx, -⟩ := takes_set.mp h
    apply edge.holds_of_next hopens hx hrest
  | assertion a => apply edge.holds_of_assertion hopens (takes_assertion.mp h).1
  | group index f ih => apply ih hopens (takes_group.mp h)
  | seq f g ihf ihg =>
    obtain ⟨e, hf, hg⟩ := takes_seq.mp h
    rcases Bool.or_eq_true_iff.mp hopens with hopens | hopens
    · apply ihf hopens hf
    · obtain ⟨hmay, hopens⟩ := Bool.and_eq_true_iff.mp hopens
      rcases hf.holds_of_mayOpenAt hmay with hholds | rfl
      · apply hholds
      · apply ihg hopens hg
  | alt f g ihf ihg =>
    obtain ⟨hf, hg⟩ := Bool.and_eq_true_iff.mp hopens
    apply (takes_alt.mp h).elim (ihf hf) (ihg hg)
  | times f least most greedy ih =>
    obtain ⟨hleast, hopens⟩ := Bool.and_eq_true_iff.mp hopens
    obtain ⟨e, hfirst, -⟩ := h.exists_first (bne_iff_ne.mp hleast)
    apply ih hopens hfirst

/-- A piece that starts at an edge ends at it if the form keeps the edge. -/
theorem Takes.holds_of_keeps (hkeeps : f.keeps edge) (h : f.Takes c d) (hc : edge.Holds c) :
  edge.Holds d
  := by
  induction f generalizing c d with
  | empty => rwa [takes_empty.mp h]
  | set s =>
    obtain ⟨x, rest, hrest, hx, rfl⟩ := takes_set.mp h
    apply edge.holds_past hkeeps hx hrest
  | assertion a => rwa [(takes_assertion.mp h).2]
  | group index f ih => apply ih hkeeps (takes_group.mp h) hc
  | seq f g ihf ihg =>
    obtain ⟨hf, hg⟩ := Bool.and_eq_true_iff.mp hkeeps
    obtain ⟨e, hfe, hge⟩ := takes_seq.mp h
    apply ihg hg hge (ihf hf hfe hc)
  | alt f g ihf ihg =>
    obtain ⟨hf, hg⟩ := Bool.and_eq_true_iff.mp hkeeps
    rcases takes_alt.mp h with h | h
    · apply ihf hf h hc
    · apply ihg hg h hc
  | times f least most greedy ih => apply h.keep (ih hkeeps) hc

/-- A form that closes at an edge takes only pieces that end there. -/
theorem Takes.holds_of_closesAt (hcloses : f.closesAt edge) (h : f.Takes c d) :
  edge.Holds d
  := by
  induction f generalizing c d with
  | empty => cases hcloses
  | set s =>
    obtain ⟨x, rest, hrest, hx, rfl⟩ := takes_set.mp h
    apply edge.holds_past hcloses hx hrest
  | assertion a =>
    obtain ⟨ha, rfl⟩ := takes_assertion.mp h
    apply edge.holds_of_assertion hcloses ha
  | group index f ih => apply ih hcloses (takes_group.mp h)
  | seq f g ihf ihg =>
    obtain ⟨e, hf, hg⟩ := takes_seq.mp h
    rcases Bool.or_eq_true_iff.mp hcloses with hcloses | hcloses
    · apply ihg hcloses hg
    · obtain ⟨hcloses, hkeeps⟩ := Bool.and_eq_true_iff.mp hcloses
      apply hg.holds_of_keeps hkeeps (ihf hcloses hf)
  | alt f g ihf ihg =>
    obtain ⟨hf, hg⟩ := Bool.and_eq_true_iff.mp hcloses
    apply (takes_alt.mp h).elim (ihf hf) (ihg hg)
  | times f least most greedy ih =>
    obtain ⟨hleast, hcloses⟩ := Bool.and_eq_true_iff.mp hcloses
    obtain ⟨e, hlast⟩ := h.exists_last (bne_iff_ne.mp hleast)
    apply ih hcloses hlast

end Form

end Pattern

end Highlight
