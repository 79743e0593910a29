import Highlight.Proofs.Pieces

/-!
# Numerals that stand by themselves

The numbers in a line are exactly the numerals that stand by themselves, between the ends of the
line, white space, commas and brackets.  The character behind a number is read but not taken, so it
can stand in front of the next number; and no other rule takes the character in front of a number
without taking a part of the number, too.
-/

namespace Highlight

open Pattern Pattern.Form

namespace Builtin

variable {line front word back : List Char} {c d : Cursor} {opening closing : List Char}

/-! ### Numerals -/

/-- One or more decimal digits. -/
def digits : Language Char :=
  runs1 .digit

/-- Decimal numbers, with or without a sign in front and with or without places behind a point. -/
def numerals : Language Char :=
  (1 + {['-']}) * digits * (1 + {['.']} * digits)

/-- The characters that numerals start with. -/
def numeralStart : CharSet :=
  .union (.single '-') .digit

/-- The characters of numerals. -/
def numeralCharacters : CharSet :=
  .union numeralStart (.single '.')

/-- The texts of the form for numerals are the numerals. -/
theorem texts_numeral :
  numeral.texts = numerals
  := by
  rw [numeral, texts_inSequence]
  simp only [List.map_cons, List.map_nil, List.prod_cons, List.prod_nil, texts_opt, texts_char,
    texts_inSequence, texts_many1_set, mul_one]
  rw [numerals, mul_assoc]
  rfl

/-- A numeral consists of a sign, digits, and what is behind the digits. -/
theorem exists_of_mem_numerals (h : word ∈ numerals) :
  ∃ u v w, word = u ++ (v ++ w) ∧ (u = [] ∨ u = ['-']) ∧ v ∈ digits ∧
    ∀ x ∈ w, x = '.' ∨ Unicode.isDigit x
  := by
  obtain ⟨_, huv, w, hw, rfl⟩ := Language.mem_mul.mp h
  obtain ⟨u, hu, v, hv, rfl⟩ := Language.mem_mul.mp huv
  refine ⟨u, v, w, List.append_assoc u v w, (Language.mem_add _ _ u).mp hu, hv, ?_⟩
  intro x hx
  rcases (Language.mem_add _ _ w).mp hw with rfl | hplaces
  · cases hx
  · obtain ⟨_, rfl, w, ⟨-, hdigits⟩, rfl⟩ := Language.mem_mul.mp hplaces
    apply (List.mem_append.mp hx).imp List.mem_singleton.mp (hdigits x)

theorem contains_numeralStart {x : Char} :
  numeralStart.contains x ↔ x = '-' ∨ Unicode.isDigit x
  := by
  rw [numeralStart, CharSet.contains, Bool.or_eq_true, contains_single]
  rfl

theorem contains_numeralCharacters {x : Char} :
  numeralCharacters.contains x ↔ (x = '-' ∨ Unicode.isDigit x) ∨ x = '.'
  := by
  rw [numeralCharacters, CharSet.contains, Bool.or_eq_true, contains_numeralStart, contains_single]

/-- A numeral is made of digits, a sign and a point. -/
theorem contains_of_mem_numerals (h : word ∈ numerals) :
  ∀ x ∈ word, numeralCharacters.contains x
  := by
  obtain ⟨u, v, w, rfl, hu, hv, hw⟩ := exists_of_mem_numerals h
  intro x hx
  rw [contains_numeralCharacters]
  rcases List.mem_append.mp hx with hx | hx
  · rcases hu with rfl | rfl
    · cases hx
    · exact .inl (.inl (List.mem_singleton.mp hx))
  · rcases List.mem_append.mp hx with hx | hx
    · exact .inl (.inr (hv.2 x hx))
    · apply (hw x hx).elim .inr fun hx => .inl (.inr hx)

/-- A numeral starts with a digit or with its sign. -/
theorem exists_head_of_mem_numerals (h : word ∈ numerals) :
  ∃ x rest, word = x :: rest ∧ numeralStart.contains x
  := by
  obtain ⟨u, v, w, rfl, hu, ⟨hne, hv⟩, -⟩ := exists_of_mem_numerals h
  obtain ⟨x, v, rfl⟩ := List.exists_cons_of_ne_nil hne
  simp only [contains_numeralStart]
  rcases hu with rfl | rfl
  · exact ⟨x, v ++ w, rfl, .inr (hv x List.mem_cons_self)⟩
  · exact ⟨'-', x :: v ++ w, rfl, .inl rfl⟩

/-- A numeral has a digit. -/
theorem exists_digit_of_mem_numerals (h : word ∈ numerals) :
  ∃ u x v, word = u ++ x :: v ∧ Unicode.isDigit x
  := by
  obtain ⟨u, v, w, rfl, -, ⟨hne, hv⟩, -⟩ := exists_of_mem_numerals h
  obtain ⟨x, v, rfl⟩ := List.exists_cons_of_ne_nil hne
  exact ⟨u, x, v ++ w, rfl, hv x List.mem_cons_self⟩

/-! ### Numerals that stand by themselves -/

/-- The characters that can stand next to a number: white space, commas and the brackets. -/
def between (brackets : List Char) : CharSet :=
  (',' :: brackets).foldl (fun s c => .union s (.single c)) .space

/-- White space, commas and the brackets may stand around a number. -/
theorem contains_between {brackets : List Char} {x : Char} :
  (between brackets).contains x ↔ Unicode.isSpace x ∨ x ∈ ',' :: brackets
  := by
  have key : ∀ (cs : List Char) (s : CharSet),
      (cs.foldl (fun s c => .union s (.single c)) s).contains x ↔ s.contains x ∨ x ∈ cs := by
    intro cs
    induction cs with
    | nil => simp
    | cons y cs ih =>
      intro s
      rw [List.foldl_cons, ih, CharSet.contains, Bool.or_eq_true, contains_single, List.mem_cons,
        or_assoc]
  apply key

/-- The line is cut around a numeral that stands by itself. -/
structure CutsNumeral (opening closing line front word back : List Char) : Prop where
  line_eq : line = front ++ (word ++ back)
  isNumeral : word ∈ numerals
  front : ∀ x ∈ front.getLast?, Unicode.isSpace x ∨ x ∈ ',' :: opening
  back : ∀ x ∈ back.head?, Unicode.isSpace x ∨ x ∈ ',' :: closing

/-- The numbers among the tokens of a line are the numerals that stand by themselves. -/
structure Numbered (opening closing line : List Char) (ts : List Token) : Prop where
  /-- Every number is a numeral that stands by itself. -/
  standing : ∀ t ∈ ts, t.kind = .number → ∃ front word back,
    CutsNumeral opening closing line front word back ∧
      t = ⟨Text.size front, Text.size front + Text.size word, .number⟩
  /-- A numeral that stands by itself is a number, unless some of it is classified otherwise. -/
  complete : ∀ front word back, CutsNumeral opening closing line front word back →
    (∀ t ∈ ts, t.kind ≠ .number → t.kind ≠ .default →
      t.stop ≤ Text.size front ∨ Text.size front + Text.size word ≤ t.start) →
    ⟨Text.size front, Text.size front + Text.size word, .number⟩ ∈ ts

/-! ### The rule for numbers -/

/-- The parts of the rule for numbers. -/
def numeralParts (opening closing : List Char) : Parts where
  front := seq (alt (assertion .textStart) (set (between opening))) empty
  token := numeral
  behind := seq empty (alt (set (between closing)) (assertion .textEnd))

/-- A number that is tried at `c` starts at `a`: at the start of the line, or behind a character
that can stand in front of it. -/
def Leads (opening : List Char) (c a : Cursor) : Prop :=
  c.before = none ∧ a = c ∨
    ∃ x rest, c.rest = x :: rest ∧ (between opening).contains x ∧ a = c.past x rest

/-- In front of a number stands the start of the line or what may stand around it. -/
theorem takes_front :
  (numeralParts opening closing).front.Takes c d ↔ Leads opening c d
  := by
  simp only [numeralParts, takes_seq, takes_alt, takes_assertion, takes_set, takes_empty,
    Assertion.holds, Option.isNone_iff_eq_none, Leads, exists_eq_right']

/-- Behind a number stands the end of the line or what may stand around it. -/
theorem exists_takes_behind :
  (∃ d, (numeralParts opening closing).behind.Takes c d) ↔
    ∀ x ∈ c.rest.head?, (between closing).contains x
  := by
  simp only [numeralParts, takes_seq, takes_alt, takes_assertion, takes_set, takes_empty,
    Assertion.holds, exists_eq_left]
  cases c.rest with
  | nil =>
    refine iff_of_true ⟨c, .inr ⟨rfl, rfl⟩⟩ ?_
    intro x hx
    cases hx
  | cons x rest =>
    constructor
    · rintro ⟨d, ⟨_, _, ⟨⟩, hx, -⟩ | ⟨⟨⟩, -⟩⟩ _ ⟨⟩
      apply hx
    · intro hx
      exact ⟨_, .inl ⟨x, rest, rfl, hx x rfl, rfl⟩⟩

section

variable {a b : Cursor}

/-- The token of the rule for numbers is a numeral. -/
theorem spans_numerals (h : (numeralParts opening closing).Cuts c a b d) :
  Cursor.Spans numerals a b
  := by
  rw [← texts_numeral]
  apply (takes_of_asksNothing rfl).mp h.token

theorem spans_numeralCharacters (h : (numeralParts opening closing).Cuts c a b d) :
  Cursor.Spans (runs numeralCharacters) a b
  := by
  obtain ⟨word, hword, hspans⟩ := spans_numerals h
  exact ⟨word, contains_of_mem_numerals hword, hspans⟩

/-- There is a digit in what the rule for numbers reads. -/
theorem exists_digit (h : (numeralParts opening closing).Cuts c a b d) :
  ∃ e x rest, a ≤ e ∧ e.offset < b.offset ∧ e.rest = x :: rest ∧ Unicode.isDigit x
  := by
  obtain ⟨_, hword, hrest, hb⟩ := spans_numerals h
  obtain ⟨u, x, v, rfl, hx⟩ := exists_digit_of_mem_numerals hword
  have hplace : a.rest = u ++ (x :: (v ++ b.rest)) := by
    rw [hrest, List.append_assoc]
    rfl
  refine ⟨a.along u (x :: (v ++ b.rest)), x, v ++ b.rest, Cursor.le_along hplace, ?_, rfl, hx⟩
  have := x.utf8Size_pos
  rw [hb, Cursor.along, Cursor.along, Text.size_append, Text.size_cons]
  simp only
  omega

/-- The token of the rule for numbers starts with a digit or with a sign. -/
theorem exists_head (h : (numeralParts opening closing).Cuts c a b d) :
  ∃ x rest, a.rest = x :: rest ∧ numeralStart.contains x
  := by
  obtain ⟨_, hword, hrest, -⟩ := spans_numerals h
  obtain ⟨x, v, rfl, hx⟩ := exists_head_of_mem_numerals hword
  exact ⟨x, v ++ b.rest, hrest, hx⟩

/-- What the rule for numbers reads is a numeral that stands by itself. -/
theorem exists_cutsNumeral (hc : Cursor.start line ≤ c)
    (h : (numeralParts opening closing).Cuts c a b d) :
  ∃ front word back, CutsNumeral opening closing line front word back ∧
    a = .behind front (word ++ back) ∧ b = .behind (front ++ word) back
  := by
  obtain ⟨front, hline, ha⟩ := Cursor.exists_eq_behind (hc.trans h.front.le)
  obtain ⟨word, hword, hrest, hb⟩ := spans_numerals h
  have hbefore : a.before = front.getLast? := congrArg Cursor.before ha
  rw [hrest] at hline ha
  rw [ha, Cursor.along_behind] at hb
  refine ⟨front, word, b.rest, ⟨hline, hword, ?_, ?_⟩, ha, hb⟩
  · rw [← hbefore]
    rcases takes_front.mp h.front with ⟨hnone, rfl⟩ | ⟨x, rest, -, hx, rfl⟩
    · rw [hnone]
      nofun
    · rintro _ ⟨⟩
      apply contains_between.mp hx
  · intro x hx
    apply contains_between.mp (exists_takes_behind.mp ⟨d, h.behind⟩ x hx)

/-- A numeral that stands by itself is read by the rule for numbers. -/
theorem CutsNumeral.exists_cuts (h : CutsNumeral opening closing line front word back) :
  ∃ c d, Cursor.start line ≤ c ∧
    (numeralParts opening closing).Cuts c (.behind front (word ++ back))
      (.behind (front ++ word) back) d
  := by
  obtain ⟨d, hbehind⟩ :
      ∃ d, (numeralParts opening closing).behind.Takes (.behind (front ++ word) back) d :=
    exists_takes_behind.mpr fun x hx => contains_between.mpr (h.back x hx)
  have htoken : numeral.Takes (.behind front (word ++ back)) (.behind (front ++ word) back) := by
    apply (takes_of_asksNothing rfl).mpr
    rw [texts_numeral]
    exact ⟨word, h.isNumeral, rfl, (Cursor.along_behind _ _ _ _).symm⟩
  rcases List.eq_nil_or_concat front with rfl | ⟨front, x, rfl⟩
  · refine ⟨_, d, ?_, takes_front.mpr (.inl ⟨rfl, rfl⟩), htoken, hbehind⟩
    rw [h.line_eq]
    apply Cursor.start_le_behind
  · have hx := h.front x (by simp)
    refine ⟨.behind front (x :: (word ++ back)), d, ?_, takes_front.mpr (.inr ?_), htoken, hbehind⟩
    · rw [h.line_eq, List.concat_eq_append, List.append_assoc]
      apply Cursor.start_le_behind
    · refine ⟨x, word ++ back, rfl, contains_between.mpr hx, ?_⟩
      rw [Cursor.past_behind, List.concat_eq_append]

end

/-! ### The other rules -/

/-- The places where no numeral that stands by itself starts. -/
def noNumeral (opening : List Char) : Edge where
  Holds c := ∀ x ∈ c.before, (between opening).contains x → ∀ y ∈ c.rest.head?,
    numeralStart.contains y = false
  byAssertion a := a = .textEnd
  byNext s := s.avoids numeralStart
  byLast s := s.avoids (between opening)
  holds_of_assertion := by
    intro a c ha hc x _ _ y hy
    rw [of_decide_eq_true ha] at hc
    rw [List.isEmpty_iff.mp hc] at hy
    cases hy
  holds_of_next := by
    intro s y rest c hs hy hrest x _ _ y' hy'
    rw [hrest] at hy'
    cases hy'
    apply CharSet.not_contains_of_avoids hs hy
  holds_past := by
    intro s x rest c hs hx hrest x' hx' hbetween
    cases hx'
    rw [CharSet.not_contains_of_avoids hs hx] at hbetween
    cases hbetween

/-- Rules of which one is for numbers.  The others do not take the character in front of a number
alone. -/
structure SortsNumerals (opening closing : List Char) (rules : List Rule) : Prop where
  apart : (between opening).avoids numeralCharacters ∧ (between closing).avoids numeralCharacters
  exists_number : ∃ r ∈ rules, r.kind = .number
  number : ∀ r ∈ rules, r.kind = .number → r.parts? = some (numeralParts opening closing)
  other : ∀ r ∈ rules, r.kind ≠ .number → r.kind ≠ .default ∧ r.takesText ∧ r.leadAvoids .digit ∧
    (r.closesAt (noNumeral opening) ∨ isComment r)

section

variable {rules : List Rule} {r : Rule} {m : RuleMatch} {ts : List Token} {a b a' b' d' e : Cursor}

/-- Of two numerals that start at the same place, none ends behind the other one. -/
theorem stop_le (happart : (between closing).avoids numeralCharacters)
    (h : (numeralParts opening closing).Cuts c a b d)
    (h' : (numeralParts opening closing).Cuts e a b' d') :
  b'.offset ≤ b.offset
  := by
  by_contra hlt
  obtain ⟨x, rest, hrest, hx⟩ := (spans_numeralCharacters h').exists_head h.token.le (by omega)
  have hclosing := exists_takes_behind.mp ⟨d, h.behind⟩ x (by rw [hrest]; rfl)
  rw [CharSet.not_contains_of_avoids happart hclosing] at hx
  cases hx

/-- A number that is tried at a place is tried only there, before it starts. -/
theorem Leads.eq_of_lt (h : Leads opening e a) (hec : e ≤ c) (hlt : c.offset < a.offset) :
  c = e
  := by
  rcases h with ⟨-, rfl⟩ | ⟨x, rest, hrest, -, rfl⟩
  · apply absurd (Cursor.offset_le hec) (Nat.not_le.mpr hlt)
  · rcases Cursor.eq_or_past_le hec with rfl | ⟨y, rest', hrest', hpast⟩
    · rfl
    · rw [hrest] at hrest'
      cases hrest'
      apply absurd (Cursor.offset_le hpast) (Nat.not_le.mpr hlt)

/-- A place where a number is tried lies inside a numeral only at the start of the line. -/
theorem Leads.eq_of_inside (happart : (between opening).avoids numeralCharacters)
    (h : Leads opening c a) (hcuts : (numeralParts opening closing).Cuts e a' b' d') (hle : a' ≤ c)
    (hlt : c.offset < b'.offset) :
  c.before = none ∧ a = c
  := by
  obtain ⟨x, rest, hrest, hx⟩ := (spans_numeralCharacters hcuts).exists_head hle hlt
  apply h.resolve_right
  rintro ⟨y, rest', hrest', hy, -⟩
  rw [hrest] at hrest'
  cases hrest'
  rw [CharSet.not_contains_of_avoids happart hy] at hx
  cases hx

/-- Numerals that are tried at the same place start at the same place. -/
theorem start_unique (happart : (between opening).avoids numeralCharacters)
    (h : (numeralParts opening closing).Cuts c a b d)
    (h' : (numeralParts opening closing).Cuts c a' b' d') :
  a' = a
  := by
  rcases takes_front.mp h.front with ⟨-, rfl⟩ | ⟨x, rest, hrest, -, ha⟩
  · apply ((takes_front.mp h'.front).eq_of_inside happart h le_rfl (h.token.offset_lt rfl)).2
  · rcases takes_front.mp h'.front with ⟨-, rfl⟩ | ⟨y, rest', hrest', -, ha'⟩
    · symm
      apply ((takes_front.mp h.front).eq_of_inside happart h' le_rfl (h'.token.offset_lt rfl)).2
    · rw [hrest] at hrest'
      cases hrest'
      rw [ha, ha']

/-- A number that takes the place in front of a numeral is the numeral. -/
theorem eq_of_passed (h : SortsNumerals opening closing rules) (hc : Cursor.start line ≤ c)
    (hcuts : (numeralParts opening closing).Cuts c a b d) (he : Cursor.start line ≤ e)
    (hcuts' : (numeralParts opening closing).Cuts e a' b' d') (hec : e ≤ c)
    (hlt : c.offset < b'.offset) :
  a' = a ∧ b' = b
  := by
  have hstart : a' = a := by
    rcases Nat.lt_or_ge c.offset a'.offset with hbefore | hge
    · obtain rfl := (takes_front.mp hcuts'.front).eq_of_lt hec hbefore
      apply start_unique h.apart.1 hcuts hcuts'
    · have ha' := he.trans hcuts'.front.le
      obtain ⟨hnone, rfl⟩ := (takes_front.mp hcuts.front).eq_of_inside h.apart.1 hcuts'
        (Cursor.le_of_offset_le ha' hc hge) hlt
      obtain rfl := Cursor.eq_start_of_before_eq_none hc hnone
      apply Cursor.eq_of_offset_eq ha' le_rfl
      apply Nat.le_antisymm hge (Cursor.offset_le ha')
  subst hstart
  refine ⟨rfl, ?_⟩
  apply Cursor.eq_of_offset_eq hcuts'.token.le hcuts.token.le
  apply Nat.le_antisymm (stop_le h.apart.2 hcuts hcuts') (stop_le h.apart.2 hcuts' hcuts)

/-- Between the place where a number is tried and its start there is no other place. -/
theorem Leads.eq_of_behind (h : Leads opening c a) (hcb : c ≤ b) (hlt : c.offset < b.offset)
    (hle : b.offset ≤ a.offset) :
  b = a
  := by
  rcases h with ⟨-, rfl⟩ | ⟨x, rest, hrest, -, rfl⟩
  · apply absurd hlt (Nat.not_lt.mpr hle)
  · rcases Cursor.eq_or_past_le hcb with rfl | ⟨y, rest', hrest', hpast⟩
    · apply absurd hlt (Nat.lt_irrefl _)
    · rw [hrest] at hrest'
      cases hrest'
      symm
      apply Cursor.eq_of_offset_eq le_rfl hpast
      apply Nat.le_antisymm (Cursor.offset_le hpast) hle

/-- A number that is cut behind another character is at a place where one can stand by itself. -/
theorem not_noNumeral (hcuts : (numeralParts opening closing).Cuts c a b d)
    (hlt : c.offset < a.offset) :
  ¬(noNumeral opening).Holds a
  := by
  intro hholds
  rcases takes_front.mp hcuts.front with ⟨-, rfl⟩ | ⟨x, rest, -, hx, rfl⟩
  · apply Nat.lt_irrefl _ hlt
  · obtain ⟨y, rest', hhead, hy⟩ := exists_head hcuts
    rw [hholds x rfl hx y (by rw [hhead]; rfl)] at hy
    cases hy

/-- Where a token of another rule ends, no numeral starts that stands by itself. -/
theorem holds_noNumeral (h : SortsNumerals opening closing rules) (hr : r ∈ rules)
    (hkind : r.kind ≠ .number) (hm : r.matchAt e = some m) (heb : e ≤ b)
    (hstop : m.tokenStop = b.offset) :
  (noNumeral opening).Holds b
  := by
  obtain ⟨-, -, -, hcloses⟩ := h.other r hr hkind
  rcases hcloses with hcloses | hcomment
  · apply Rule.holds_tokenStop hcloses hm heb hstop
  · intro _ _ _ y hy
    rw [head_of_isComment hcomment hm heb hstop y hy]
    rfl

/-- No other rule takes the place in front of a numeral without a part of the numeral. -/
theorem not_passed (h : SortsNumerals opening closing rules)
    (hcuts : (numeralParts opening closing).Cuts c a b d) (hr : r ∈ rules)
    (hkind : r.kind ≠ .number) (hm : r.matchAt e = some m) (hec : e ≤ c)
    (hlt : c.offset < m.tokenStop) :
  a.offset < m.tokenStop ∧ m.tokenStart < b.offset
  := by
  constructor
  · by_contra hle
    obtain ⟨a', b', ha', hab', -, hstop⟩ := (Rule.matches_of_matchAt hm).token
    have heb := ha'.trans hab'
    have hholds := holds_noNumeral h hr hkind hm heb hstop
    rw [hstop] at hle hlt
    obtain rfl := (takes_front.mp hcuts.front).eq_of_behind
      (Cursor.le_of_offset_le hec heb hlt.le) hlt (Nat.not_lt.mp hle)
    apply not_noNumeral hcuts hlt hholds
  · -- There are no digits in front of the token.
    by_contra hle
    obtain ⟨-, -, havoids, -⟩ := h.other r hr hkind
    obtain ⟨f, x, rest, haf, hfb, hrest, hx⟩ := exists_digit hcuts
    have hnot := Rule.not_contains_of_lt_tokenStart havoids hm
      (hec.trans (hcuts.front.le.trans haf)) (Nat.lt_of_lt_of_le hfb (Nat.not_lt.mp hle)) hrest
    apply Bool.eq_false_iff.mp hnot hx

/-- Rules for numbers classify the numerals that stand by themselves. -/
theorem Numbered.of_sorted (h : SortsNumerals opening closing rules)
    (hsorted : Sorted rules (Cursor.start line) ts) :
  Numbered opening closing line (Token.joined ts)
  where
  standing := by
    intro t ht hkind
    have hne : t.kind ≠ .default := by
      rw [hkind]
      nofun
    obtain ⟨c, r, m, hc, hfirst, rfl⟩ := hsorted.exists_rule ht hne
    obtain ⟨hr, hm, -⟩ := Rule.first?_eq_some hfirst
    obtain ⟨a, b, d, hcuts, hstart, hstop⟩ := Rule.exists_cuts (h.number r hr hkind) hm
    obtain ⟨front, word, back, hnumeral, rfl, rfl⟩ := exists_cutsNumeral hc hcuts
    refine ⟨front, word, back, hnumeral, ?_⟩
    rw [hstart, hstop, show r.kind = .number from hkind, Cursor.behind, Cursor.behind,
      Text.size_append]
  complete := by
    intro front word back hnumeral hfree
    obtain ⟨c, d, hc, hcuts⟩ := hnumeral.exists_cuts
    obtain ⟨x, rest, hhead, -⟩ := exists_head hcuts
    have hrest : c.rest ≠ [] := by
      intro hnil
      have hle := Cursor.length_rest_le hcuts.front.le
      rw [hhead, hnil] at hle
      cases hle
    rcases hsorted.passes hc hrest with ⟨e, r, m, he, hec, hfirst, hlt, htoken⟩ | hnone
    · obtain ⟨hr, hm, -⟩ := Rule.first?_eq_some hfirst
      by_cases hkind : r.kind = .number
      · obtain ⟨a', b', d', hcuts', hstart, hstop⟩ := Rule.exists_cuts (h.number r hr hkind) hm
        rw [hstop] at hlt
        obtain ⟨rfl, rfl⟩ := eq_of_passed h hc hcuts he hcuts' hec hlt
        have htaken := htoken ?_ ?_
        · rw [hstart, hstop, hkind, Cursor.behind, Cursor.behind, Text.size_append] at htaken
          apply htaken
        · rw [hstart, hstop]
          apply hcuts.token.offset_lt rfl
        · rw [hkind]
          nofun
      · exfalso
        obtain ⟨hclassified, htext, -⟩ := h.other r hr hkind
        obtain ⟨hstart, hstop⟩ := not_passed h hcuts hr hkind hm hec hlt
        have htaken := htoken (Rule.tokenStart_lt_tokenStop htext hm) hclassified
        rw [Cursor.behind, Text.size_append] at hstop
        rcases hfree _ htaken hkind hclassified with hle | hle
        · apply Nat.not_le.mpr hstart hle
        · apply Nat.not_le.mpr hstop hle
    · obtain ⟨r, hr, hkind⟩ := h.exists_number
      have happlies := Rule.isSome_matchAt_of_cuts (h.number r hr hkind) rfl hcuts
      rw [hnone r hr] at happlies
      cases happlies

end

/-- The rules of pipeline definitions sort numbers by their brackets. -/
theorem sortsNumerals_pipeline :
  SortsNumerals ['[', '{'] [']', '}'] Pipeline.rules
  where
  apart := by decide +kernel
  exists_number := by decide +kernel
  number := by decide +kernel
  other := by decide +kernel

/-- The rules of scripts sort numbers by their brackets. -/
theorem sortsNumerals_shell :
  SortsNumerals ['(', '[', '{'] [')', ']', '}'] Shell.rules
  where
  apart := by decide +kernel
  exists_number := by decide +kernel
  number := by decide +kernel
  other := by decide +kernel

/-- The numbers in a line of pipeline definitions or of a shell script are exactly the numerals that
stand by themselves and of which nothing is classified otherwise. -/
theorem numbers_tokenizeLine (pipeline shell : String) (lookup : String → Option Grammar)
    (line : List Char) :
  Numbered ['[', '{'] [']', '}'] line
      ((Pipeline.grammar pipeline shell).tokenizeLine lookup line .root).tokens ∧
    Numbered ['(', '[', '{'] [')', ']', '}'] line
      ((Shell.grammar shell).tokenizeLine lookup line .root).tokens
  := by
  constructor
  · obtain ⟨ts, hsorted, hts⟩ :=
      (Pipeline.grammar pipeline shell).exists_sorted steady_pipeline lookup line
    rw [hts]
    apply Numbered.of_sorted sortsNumerals_pipeline hsorted
  · obtain ⟨ts, hsorted, hts⟩ := (Shell.grammar shell).exists_sorted steady_shell lookup line
    rw [hts]
    apply Numbered.of_sorted sortsNumerals_shell hsorted

end Builtin

end Highlight
