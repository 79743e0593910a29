import Highlight.Proofs.Edges

/-!
# The parts of rules

Where the token of a rule is what a group of its pattern captures, the pattern reads something in
front of the token and something behind it.  Each part is a form of its own, and where the token
starts and ends is known from what the parts take.
-/

namespace Highlight

/-- The form of a token, between the forms of what is read in front of it and behind it. -/
structure Parts where
  front : Pattern.Form
  token : Pattern.Form
  behind : Pattern.Form
deriving DecidableEq

/-- The token goes from `a` to `b`, when the parts are read from `c` to `d`. -/
structure Parts.Cuts (p : Parts) (c a b d : Cursor) : Prop where
  front : p.front.Takes c a
  token : p.token.Takes a b
  behind : p.behind.Takes b d

namespace Pattern

/-- None of the marks belongs to the group. -/
def Unmarked (group : Nat) (ms : Marks) : Prop :=
  ∀ m ∈ ms, m.1 ≠ .opening group ∧ m.1 ≠ .closing group

variable {index : Nat} {ms ms' : Marks}

/-- If neither of two readings marks a group, both together do not. -/
theorem Unmarked.append (h : Unmarked index ms) (h' : Unmarked index ms') :
  Unmarked index (ms ++ ms')
  := by
  intro m hm
  apply (List.mem_append.mp hm).elim (h m) (h' m)

theorem Unmarked.lookup (h : Unmarked index ms) :
  ms.reverse.lookup (.opening index) = none ∧ ms.reverse.lookup (.closing index) = none
  := by
  constructor <;> rw [List.lookup_eq_none_iff] <;> intro m hm
  · apply bne_iff_ne.mpr (h m (List.mem_reverse.mp hm)).1.symm
  · apply bne_iff_ne.mpr (h m (List.mem_reverse.mp hm)).2.symm

namespace Form

variable {f g : Form} {p : Parts} {c a b d : Cursor}

/-- The group is captured by a piece of the form. -/
def captures (index : Nat) : Form → Bool
  | empty | set _ | assertion _ => false
  | group i f => i = index || f.captures index
  | seq f g | alt f g => f.captures index || g.captures index
  | times f _ _ _ => f.captures index

/-- The parts of a form in which the group stands in one place, which every piece goes through. -/
def parts? (index : Nat) : Form → Option Parts
  | group i f => if i = index ∧ f.captures index = false then some ⟨empty, f, empty⟩ else none
  | seq f g =>
    if g.captures index then (g.parts? index).map fun p => { p with front := seq f p.front }
    else (f.parts? index).map fun p => { p with behind := seq p.behind g }
  | _ => none

/-- A form that does not capture a group does not mark it. -/
theorem unmarked_of_reads (h : f.captures index = false) (hreads : f.Reads c ms d) :
  Unmarked index ms
  := by
  induction f generalizing c ms d with
  | empty | set | assertion =>
    obtain ⟨rfl, -⟩ := hreads
    nofun
  | group i f ih =>
    obtain ⟨hi, h⟩ := Bool.or_eq_false_iff.mp h
    obtain ⟨_, _, _, ⟨rfl, -⟩, ⟨_, _, _, hreads, ⟨rfl, -⟩, rfl⟩, rfl⟩ := hreads
    replace hi : i ≠ index := of_decide_eq_false hi
    apply Unmarked.append _ ((ih h hreads).append _) <;> simp [Unmarked, hi]
  | seq f g ihf ihg =>
    obtain ⟨hf, hg⟩ := Bool.or_eq_false_iff.mp h
    obtain ⟨_, _, _, hrf, hrg, rfl⟩ := hreads
    apply (ihf hf hrf).append (ihg hg hrg)
  | alt f g ihf ihg =>
    obtain ⟨hf, hg⟩ := Bool.or_eq_false_iff.mp h
    apply hreads.elim (ihf hf) (ihg hg)
  | times f least most greedy ih =>
    obtain ⟨n, -, -, hreads⟩ := hreads
    induction n generalizing c ms with
    | zero =>
      obtain ⟨rfl, -⟩ := hreads
      nofun
    | succ n ihn =>
      obtain ⟨_, _, _, hfirst, hrest, rfl⟩ := hreads
      apply (ih h hfirst).append (ihn hrest)

/-- The group captures what the middle part takes. -/
theorem exists_cuts (hp : f.parts? index = some p) (h : f.Reads c ms d) :
  ∃ a b, p.Cuts c a b d ∧ ms.reverse.lookup (.opening index) = some a.offset ∧
    ms.reverse.lookup (.closing index) = some b.offset
  := by
  induction f generalizing c ms d p with
  | empty | set | assertion | alt | times => cases hp
  | group i f ih =>
    rw [parts?] at hp
    split at hp
    next hi =>
      obtain ⟨rfl, hcaptures⟩ := hi
      cases hp
      obtain ⟨_, _, _, ⟨rfl, rfl⟩, ⟨ms, _, _, h, ⟨rfl, rfl⟩, rfl⟩, rfl⟩ := h
      obtain ⟨hopening, -⟩ := (unmarked_of_reads hcaptures h).lookup
      refine ⟨_, _, ⟨takes_empty.mpr rfl, ⟨ms, h⟩, takes_empty.mpr rfl⟩, ?_, ?_⟩
      · simp [List.lookup_cons, List.lookup_append, hopening, opening_beq_closing]
      · simp
    next => cases hp
  | seq f g ihf ihg =>
    obtain ⟨_, e, _, hf, hg, rfl⟩ := h
    rw [List.reverse_append, List.lookup_append, List.lookup_append]
    rw [parts?] at hp
    split at hp
    next =>
      obtain ⟨q, hq, rfl⟩ := Option.map_eq_some_iff.mp hp
      obtain ⟨a, b, hcuts, hopening, hclosing⟩ := ihg hq hg
      rw [hopening, hclosing]
      have hfront := takes_seq.mpr ⟨e, ⟨_, hf⟩, hcuts.front⟩
      exact ⟨a, b, ⟨hfront, hcuts.token, hcuts.behind⟩, rfl, rfl⟩
    next hcaptures =>
      obtain ⟨q, hq, rfl⟩ := Option.map_eq_some_iff.mp hp
      obtain ⟨a, b, hcuts, hopening, hclosing⟩ := ihf hq hf
      obtain ⟨hopening', hclosing'⟩ := (unmarked_of_reads (by simpa using hcaptures) hg).lookup
      rw [hopening', hclosing', Option.none_or, Option.none_or, hopening, hclosing]
      have hbehind := takes_seq.mpr ⟨e, hcuts.behind, ⟨_, hg⟩⟩
      exact ⟨a, b, ⟨hcuts.front, hcuts.token, hbehind⟩, rfl, rfl⟩

/-- Parts that follow each other make up a piece of the form. -/
theorem takes_of_cuts (hp : f.parts? index = some p) (h : p.Cuts c a b d) :
  f.Takes c d
  := by
  induction f generalizing c d p with
  | empty | set | assertion | alt | times => cases hp
  | group i f ih =>
    rw [parts?] at hp
    split at hp
    next hi =>
      cases hp
      obtain ⟨hfront, htoken, hbehind⟩ := h
      obtain rfl := takes_empty.mp hfront
      obtain rfl := takes_empty.mp hbehind
      apply takes_group.mpr htoken
    next => cases hp
  | seq f g ihf ihg =>
    rw [parts?] at hp
    split at hp
    next =>
      obtain ⟨q, hq, rfl⟩ := Option.map_eq_some_iff.mp hp
      obtain ⟨e, hf, hfront⟩ := takes_seq.mp h.front
      exact takes_seq.mpr ⟨e, hf, ihg hq ⟨hfront, h.token, h.behind⟩⟩
    next =>
      obtain ⟨q, hq, rfl⟩ := Option.map_eq_some_iff.mp hp
      obtain ⟨e, hbehind, hg⟩ := takes_seq.mp h.behind
      exact takes_seq.mpr ⟨e, ihf hq ⟨h.front, h.token, hbehind⟩, hg⟩

end Form

end Pattern

namespace Rule

open Pattern Pattern.Form

variable {r : Rule} {p : Parts} {c a b d : Cursor} {m : RuleMatch}

/-- The parts of a rule.  All that is read is the token if no group bounds it. -/
def parts? (r : Rule) : Option Parts :=
  match r.group with
  | none | some 0 => some ⟨.empty, r.pattern.form, .empty⟩
  | some index => r.pattern.form.parts? index

/-- What a rule classifies of a reading is what the middle part takes. -/
theorem tokenSpan?_eq {whole : Reading} (hp : r.parts? = some p)
    (hreads : r.pattern.form.Reads c whole.marks.reverse d) (hstop : whole.stop = d.offset) :
  ∃ a b, p.Cuts c a b d ∧ r.tokenSpan? c.offset whole = some ⟨a.offset, b.offset⟩
  := by
  have hall : Parts.Cuts ⟨.empty, r.pattern.form, .empty⟩ c c d d :=
    ⟨takes_empty.mpr rfl, ⟨_, hreads⟩, takes_empty.mpr rfl⟩
  match hgroup : r.group with
  | none | some 0 =>
    rw [parts?, hgroup] at hp
    cases hp
    rw [tokenSpan?, hgroup, hstop]
    exact ⟨c, d, hall, rfl⟩
  | some (index + 1) =>
    rw [parts?, hgroup] at hp
    obtain ⟨a, b, hcuts, ho, hc⟩ := Form.exists_cuts hp hreads
    rw [List.reverse_reverse] at ho hc
    simp only [tokenSpan?, hgroup, Reading.span?, ho, hc]
    exact ⟨a, b, hcuts, rfl⟩

/-- A rule in parts cuts what it reads, and its token is the middle part. -/
theorem exists_cuts (hp : r.parts? = some p) (hm : r.matchAt c = some m) :
  ∃ a b d, p.Cuts c a b d ∧ m.tokenStart = a.offset ∧ m.tokenStop = b.offset
  := by
  obtain ⟨whole, hwhole, htoken, -⟩ := exists_reading hm
  obtain ⟨-, d, hreads, hstop⟩ := reads_of_matchAt hwhole
  obtain ⟨a, b, hcuts, htoken'⟩ := tokenSpan?_eq hp hreads hstop
  rw [htoken] at htoken'
  cases m
  cases htoken'
  exact ⟨a, b, d, hcuts, rfl, rfl⟩

/-- What is cut into parts is taken as a whole. -/
theorem takes_of_cuts (hp : r.parts? = some p) (h : p.Cuts c a b d) :
  r.pattern.form.Takes c d
  := by
  rw [parts?] at hp
  split at hp
  case h_1 | h_2 =>
    cases hp
    obtain ⟨hfront, htoken, hbehind⟩ := h
    obtain rfl := takes_empty.mp hfront
    obtain rfl := takes_empty.mp hbehind
    apply htoken
  case h_3 => apply Form.takes_of_cuts hp h

/-- A rule whose token takes text applies wherever its parts are read. -/
theorem isSome_matchAt_of_cuts (hp : r.parts? = some p) (htext : p.token.takesText)
    (h : p.Cuts c a b d) :
  (r.matchAt c).isSome
  := by
  obtain ⟨ms, hreads⟩ := takes_of_cuts hp h
  obtain ⟨whole, hwhole⟩ :=
    Option.isSome_iff_exists.mp (matchAt_isSome_iff_reads.mpr ⟨ms, d, hreads⟩)
  obtain ⟨-, d, hreads, hstop⟩ := reads_of_matchAt hwhole
  obtain ⟨a, b, hcuts, htoken⟩ := tokenSpan?_eq hp hreads hstop
  have hle := Cursor.offset_le hcuts.front.le
  have hlt := hcuts.token.offset_lt htext
  simp only [matchAt, hwhole, htoken]
  rw [if_neg (by omega)]
  rfl

/-! ### The ends of tokens -/

variable {edge : Edge} {s : CharSet}

/-- Tokens of the rule start at the edge. -/
def opensAt (edge : Edge) (r : Rule) : Bool :=
  r.parts?.any fun p => p.front.closesAt edge || p.token.opensAt edge

/-- Tokens of the rule end at the edge. -/
def closesAt (edge : Edge) (r : Rule) : Bool :=
  r.parts?.any fun p => p.token.closesAt edge || p.behind.opensAt edge

/-- No character in front of a token of the rule belongs to the set. -/
def leadAvoids (s : CharSet) (r : Rule) : Bool :=
  r.parts?.any fun p => p.front.avoids s

/-- No character of a token of the rule belongs to the set. -/
def tokenAvoids (s : CharSet) (r : Rule) : Bool :=
  r.parts?.any fun p => p.token.avoids s

/-- Tokens of the rule take text. -/
def takesText (r : Rule) : Bool :=
  r.parts?.any fun p => p.token.takesText

/-- The token of a rule that takes text is not empty. -/
theorem tokenStart_lt_tokenStop (htext : r.takesText) (hm : r.matchAt c = some m) :
  m.tokenStart < m.tokenStop
  := by
  obtain ⟨p, hp, htext⟩ := (Option.any_eq_true _ _).mp htext
  obtain ⟨a, b, d, hcuts, hstart, hstop⟩ := exists_cuts hp hm
  rw [hstart, hstop]
  apply hcuts.token.offset_lt htext

/-- The token of a rule that opens at an edge starts there. -/
theorem holds_tokenStart (hopens : r.opensAt edge) (hm : r.matchAt c = some m) (hca : c ≤ a)
    (ha : m.tokenStart = a.offset) :
  edge.Holds a
  := by
  obtain ⟨p, hp, hopens⟩ := (Option.any_eq_true _ _).mp hopens
  obtain ⟨a', b, d, hcuts, hstart, -⟩ := exists_cuts hp hm
  obtain rfl : a = a' := Cursor.eq_of_offset_eq hca hcuts.front.le (ha.symm.trans hstart)
  rcases Bool.or_eq_true_iff.mp hopens with hopens | hopens
  · apply hcuts.front.holds_of_closesAt hopens
  · apply hcuts.token.holds_of_opensAt hopens

/-- The token of a rule that closes at an edge ends there. -/
theorem holds_tokenStop (hcloses : r.closesAt edge) (hm : r.matchAt c = some m) (hcb : c ≤ b)
    (hb : m.tokenStop = b.offset) :
  edge.Holds b
  := by
  obtain ⟨p, hp, hcloses⟩ := (Option.any_eq_true _ _).mp hcloses
  obtain ⟨a, b', d, hcuts, -, hstop⟩ := exists_cuts hp hm
  obtain rfl : b = b' :=
    Cursor.eq_of_offset_eq hcb (hcuts.front.le.trans hcuts.token.le) (hb.symm.trans hstop)
  rcases Bool.or_eq_true_iff.mp hcloses with hcloses | hcloses
  · apply hcuts.token.holds_of_closesAt hcloses
  · apply hcuts.behind.holds_of_opensAt hcloses

/-- A character in front of the token does not belong to the set. -/
theorem not_contains_of_lt_tokenStart {x : Char} {rest : List Char} (havoids : r.leadAvoids s)
    (hm : r.matchAt c = some m) (hca : c ≤ a) (ha : a.offset < m.tokenStart)
    (hrest : a.rest = x :: rest) :
  s.contains x = false
  := by
  obtain ⟨p, hp, havoids⟩ := (Option.any_eq_true _ _).mp havoids
  obtain ⟨a', b, d, hcuts, hstart, -⟩ := exists_cuts hp hm
  rw [hstart] at ha
  obtain ⟨y, rest', hrest', hy⟩ := (hcuts.front.spans_runs havoids).exists_head hca ha
  rw [hrest] at hrest'
  cases hrest'
  rwa [CharSet.contains, Bool.not_eq_true'] at hy

/-- A character of the token does not belong to the set. -/
theorem not_contains_of_lt_tokenStop {x : Char} {rest : List Char} (havoids : r.tokenAvoids s)
    (hm : r.matchAt c = some m) (hca : c ≤ a) (ha : m.tokenStart ≤ a.offset)
    (ha' : a.offset < m.tokenStop) (hrest : a.rest = x :: rest) :
  s.contains x = false
  := by
  obtain ⟨p, hp, havoids⟩ := (Option.any_eq_true _ _).mp havoids
  obtain ⟨a', b, d, hcuts, hstart, hstop⟩ := exists_cuts hp hm
  rw [hstart] at ha
  rw [hstop] at ha'
  obtain ⟨y, rest', hrest', hy⟩ := (hcuts.token.spans_runs havoids).exists_head
    (Cursor.le_of_offset_le hcuts.front.le hca ha) ha'
  rw [hrest] at hrest'
  cases hrest'
  rwa [CharSet.contains, Bool.not_eq_true'] at hy

end Rule

end Highlight
