import Mathlib.Data.List.TakeWhile
import Highlight.Proofs.ScriptBlock
import Highlight.Proofs.Words

/-!
# The heads of lines of pipeline definitions

The first four rules read from the start of a line only, so at most one of them takes a token of the
line: a line that opens a script block, a section name, the kind of a list item, or a property.
Which one it is, and where its token lies, is seen from the white space in front of the line and
from the word behind it.
-/

namespace Highlight

open Pattern Pattern.Form Text

/-! ### White space and words at the start of a text -/

/-- The text begins with the word, which is one of the words and not a part of a longer one. -/
structure BeginsWith (words : List String) (text word : List Char) : Prop where
  listed : word ∈ listed words
  exists_back : ∃ back, text = word ++ back ∧ Assertion.isWordNeighbour back.head? = false

/-- The words are made of letters without accents, and none is empty. -/
def AreWords (words : List String) : Prop :=
  ∀ w ∈ words, w.toList ≠ [] ∧ w.toList.all Builtin.letters.contains

instance (words : List String) : Decidable (AreWords words) :=
  inferInstanceAs (Decidable (∀ w ∈ words, _))

variable {words : List String} {line front text word back blank : List Char} {c d : Cursor}

/-- The listed words are not empty and have only word characters. -/
theorem AreWords.forall_mem (h : AreWords words) (hword : word ∈ listed words) :
  word ≠ [] ∧ ∀ x ∈ word, Unicode.isWord x
  := by
  obtain ⟨w, hw, rfl⟩ := hword
  obtain ⟨hne, hletters⟩ := h w hw
  have hisInWords : Builtin.letters.isInWords := by decide +kernel
  refine ⟨hne, fun x hx => ?_⟩
  apply CharSet.isWord_of_isInWords hisInWords (List.all_eq_true.mp hletters x hx)

/-- The word is all of the word characters at the start of the text. -/
theorem BeginsWith.eq_takeWhile (h : BeginsWith words text word) (hwords : AreWords words) :
  word = text.takeWhile Unicode.isWord
  := by
  obtain ⟨back, rfl, hback⟩ := h.exists_back
  rw [List.takeWhile_append_of_pos (hwords.forall_mem h.listed).2]
  cases back with
  | nil => simp
  | cons x back =>
    have hx : ¬Unicode.isWord x := Bool.eq_false_iff.mp hback
    rw [List.takeWhile_cons_of_neg hx, List.append_nil]

/-- A text that begins with a word begins with a word character. -/
theorem BeginsWith.exists_head (h : BeginsWith words text word) (hwords : AreWords words) :
  ∃ x rest, text = x :: rest ∧ Unicode.isWord x
  := by
  obtain ⟨back, rfl, -⟩ := h.exists_back
  obtain ⟨hne, hword⟩ := hwords.forall_mem h.listed
  obtain ⟨x, word, rfl⟩ := List.exists_cons_of_ne_nil hne
  exact ⟨x, word ++ back, rfl, hword x List.mem_cons_self⟩

/-- A text begins with one word at most. -/
theorem BeginsWith.unique {words' : List String} {word' : List Char}
    (h : BeginsWith words text word) (h' : BeginsWith words' text word') (hwords : AreWords words)
    (hwords' : AreWords words') :
  word = word'
  := by rw [h.eq_takeWhile hwords, h'.eq_takeWhile hwords']

/-- A word character is no white space. -/
theorem not_isSpace_of_isWord {x : Char} (h : Unicode.isWord x) :
  ¬Unicode.isSpace x
  := by
  intro hspace
  have havoids : CharSet.space.avoids .word := by decide +kernel
  apply Bool.eq_false_iff.mp (CharSet.not_contains_of_avoids havoids hspace) h

/-! ### Words behind a lead -/

namespace Builtin.Pipeline

variable {lead : List Form} {L : Language Char} {a b : Cursor} {r : Rule} {m : RuleMatch}
  {kind : TokenKind} {ts : List Token} {t : Token}

/-- The parts of a rule for words at the start of a line, behind a lead. -/
def headParts (lead : List Form) (words : List String) : Parts where
  front := seq (inSequence (assertion .textStart :: lead)) empty
  token := oneOf words
  behind := seq empty wordEnd

/-- The line has one of the words behind a text of the lead. -/
structure CutsHead (lead : Language Char) (words : List String) (line front text word : List Char) :
    Prop where
  line_eq : line = front ++ text
  lead : front ∈ lead
  begins : BeginsWith words text word

/-- The part in front of a head takes a lead at the start of the line. -/
theorem takes_headFront (hlead : (inSequence lead).asksNothing) (hc : Cursor.start line ≤ c) :
  (headParts lead words).front.Takes c a ↔
    c = Cursor.start line ∧ ∃ front text, line = front ++ text ∧ front ∈ (inSequence lead).texts ∧
      a = .behind front text
  := by
  simp only [headParts, takes_seq, takes_empty, exists_eq_right', takes_inSequence_cons,
    takes_assertion, holds_textStart hc, takes_of_asksNothing hlead]
  constructor
  · rintro ⟨_, ⟨rfl, rfl⟩, front, hfront, hline, ha⟩
    rw [show Cursor.start line = .behind [] line from rfl, Cursor.along_behind] at ha
    exact ⟨rfl, front, a.rest, hline, hfront, ha⟩
  · rintro ⟨rfl, front, text, hline, hfront, rfl⟩
    refine ⟨_, ⟨rfl, rfl⟩, front, hfront, hline, ?_⟩
    rw [show Cursor.start line = .behind [] line from rfl, Cursor.along_behind, List.nil_append]
    rfl

/-- The part for the head itself takes one of the words. -/
theorem takes_headToken (htoken : (oneOf words).asksNothing) (hne : words ≠ []) :
  (headParts lead words).token.Takes (.behind front text) b ↔
    ∃ word back, word ∈ listed words ∧ text = word ++ back ∧ b = .behind (front ++ word) back
  := by
  have htakes := takes_of_asksNothing (c := .behind front text) (d := b) htoken
  rw [texts_oneOf hne] at htakes
  apply htakes.trans
  constructor
  · rintro ⟨word, hword, htext, hb⟩
    rw [Cursor.along_behind] at hb
    exact ⟨word, b.rest, hword, htext, hb⟩
  · rintro ⟨word, back, hword, rfl, rfl⟩
    exact ⟨word, hword, rfl, (Cursor.along_behind _ _ _ _).symm⟩

/-- Behind the head no word goes on. -/
theorem takes_headBehind (hwords : AreWords words) (hword : word ∈ listed words) :
  (headParts lead words).behind.Takes (.behind (front ++ word) back) d ↔
    Assertion.isWordNeighbour back.head? = false ∧ d = .behind (front ++ word) back
  := by
  obtain ⟨hne, hisWord⟩ := hwords.forall_mem hword
  simp only [headParts, wordEnd, takes_seq, takes_empty, exists_eq_left, takes_assertion,
    Assertion.holds, Cursor.behind, isWordNeighbour_getLast hisWord hne]
  rw [bne_iff_ne, ne_comm, Bool.eq_false_iff]

/-- The rule takes one of the words at the start of a line, behind a text of the lead. -/
structure TakesHead (r : Rule) (lead : Language Char) (words : List String) : Prop where
  sound : ∀ {line c m}, Cursor.start line ≤ c → r.matchAt c = some m → c = Cursor.start line ∧
    ∃ front text word, CutsHead lead words line front text word ∧ m.tokenStart = size front ∧
      m.tokenStop = size front + size word
  complete : ∀ {line front text word}, CutsHead lead words line front text word →
    (r.matchAt (Cursor.start line)).isSome

/-- Words for which the readings of rules are known. -/
structure HeadWords (words : List String) : Prop where
  ne_nil : words ≠ []
  areWords : AreWords words
  asksNothing : (oneOf words).asksNothing
  takesText : (oneOf words).takesText

/-- What is cut by the parts is a head behind its lead. -/
theorem exists_cutsHead (hwords : HeadWords words) (hlead : (inSequence lead).asksNothing)
    (hc : Cursor.start line ≤ c) (h : (headParts lead words).Cuts c a b d) :
  c = Cursor.start line ∧
    ∃ front text word, CutsHead (inSequence lead).texts words line front text word ∧
      a.offset = size front ∧ b.offset = size front + size word
  := by
  obtain ⟨hstart, front, text, hline, hfront, rfl⟩ := (takes_headFront hlead hc).mp h.front
  obtain ⟨word, back, hword, htext, rfl⟩ :=
    (takes_headToken hwords.asksNothing hwords.ne_nil).mp h.token
  obtain ⟨hback, -⟩ := (takes_headBehind hwords.areWords hword).mp h.behind
  refine ⟨hstart, front, text, word, ⟨hline, hfront, hword, back, htext, hback⟩, rfl, ?_⟩
  apply size_append

/-- A head behind its lead is cut by the parts. -/
theorem exists_cuts_of_cutsHead (hwords : HeadWords words) (hlead : (inSequence lead).asksNothing)
    (h : CutsHead (inSequence lead).texts words line front text word) :
  ∃ b d, (headParts lead words).Cuts (Cursor.start line) (.behind front text) b d
  := by
  obtain ⟨hline, hfront, hword, back, htext, hback⟩ := h
  exact ⟨_, _, (takes_headFront hlead le_rfl).mpr ⟨rfl, front, text, hline, hfront, rfl⟩,
    (takes_headToken hwords.asksNothing hwords.ne_nil).mpr ⟨word, back, hword, htext, rfl⟩,
    (takes_headBehind hwords.areWords hword).mpr ⟨hback, rfl⟩⟩

/-- A rule with the parts of a head takes heads. -/
theorem takesHead_of_parts (hwords : HeadWords words) (hlead : (inSequence lead).asksNothing)
    (hp : r.parts? = some (headParts lead words)) :
  TakesHead r (inSequence lead).texts words
  where
  sound {line c m} hc hm := by
    obtain ⟨a, b, d, hcuts, hstart, hstop⟩ := Rule.exists_cuts hp hm
    rw [hstart, hstop]
    apply exists_cutsHead hwords hlead hc hcuts
  complete {line front text word} h := by
    obtain ⟨b, d, hcuts⟩ := exists_cuts_of_cutsHead hwords hlead h
    apply Rule.isSome_matchAt_of_cuts hp hwords.takesText hcuts

/-- Behind white space a word starts at the boundary of a word. -/
theorem takesHead_of_wordStart (hwords : HeadWords words)
    (hp : r.parts? = some (headParts [blanks, wordStart] words)) :
  TakesHead r (runs .space) words
  := by
  have htexts : (inSequence [blanks]).texts = runs .space := texts_many_set .space
  have hfront : ∀ {c a}, (headParts [blanks, wordStart] words).front.Takes c a ↔
      (headParts [blanks] words).front.Takes c a ∧ Assertion.wordBoundary.holds a := by
    intro c a
    have hlead : (inSequence [assertion .textStart, blanks, wordStart]).Takes c a ↔
        (inSequence [assertion .textStart, blanks]).Takes c a ∧
          Assertion.wordBoundary.holds a := by
      apply takes_seq.trans
      constructor
      · rintro ⟨e, hblanks, hboundary⟩
        obtain ⟨hboundary, rfl⟩ := takes_assertion.mp hboundary
        exact ⟨hblanks, hboundary⟩
      · rintro ⟨hblanks, hboundary⟩
        exact ⟨a, hblanks, takes_assertion.mpr ⟨hboundary, rfl⟩⟩
    simp only [headParts, takes_seq, takes_empty, exists_eq_right', hlead]
  constructor
  · intro line c m hc hm
    obtain ⟨a, b, d, hcuts, hstart, hstop⟩ := Rule.exists_cuts hp hm
    rw [hstart, hstop, ← htexts]
    apply exists_cutsHead hwords rfl hc
    exact ⟨(hfront.mp hcuts.front).1, hcuts.token, hcuts.behind⟩
  · intro line front text word h
    have hboundary : Assertion.wordBoundary.holds (.behind front text) := by
      obtain ⟨x, rest, htext, hx⟩ := h.begins.exists_head hwords.areWords
      have hblank : Assertion.isWordNeighbour front.getLast? = false := by
        cases hlast : front.getLast? with
        | none => rfl
        | some y =>
          apply Bool.eq_false_iff.mpr
          intro hy
          apply not_isSpace_of_isWord hy (h.lead y (List.mem_of_getLast? hlast))
      have hword : Assertion.isWordNeighbour text.head? = true := by
        rw [htext]
        apply hx
      rw [Assertion.holds, Cursor.behind, hblank, hword]
      rfl
    rw [← htexts] at h
    obtain ⟨b, d, hcuts⟩ := exists_cuts_of_cutsHead hwords rfl h
    apply Rule.isSome_matchAt_of_cuts hp hwords.takesText
    exact ⟨hfront.mpr ⟨hcuts.front, hboundary⟩, hcuts.token, hcuts.behind⟩

/-! ### Leads -/

/-- A list dash between white space. -/
def dash : Language Char :=
  runs .space * ({['-']} * runs .space)

theorem headWords_sections :
  HeadWords sections
  := ⟨nofun, by decide +kernel, by decide +kernel, by decide +kernel⟩

theorem headWords_listItems :
  HeadWords listItems
  := ⟨nofun, by decide +kernel, by decide +kernel, by decide +kernel⟩

theorem headWords_properties :
  HeadWords properties
  := ⟨nofun, by decide +kernel, by decide +kernel, by decide +kernel⟩

/-- The leads of list items are a dash between white space. -/
theorem mem_dash :
  front ∈ dash ↔ ∃ u v, front = u ++ '-' :: v ∧ (∀ x ∈ u, Unicode.isSpace x) ∧
    ∀ x ∈ v, Unicode.isSpace x
  := by
  simp only [dash, Language.mem_mul]
  constructor
  · rintro ⟨u, hu, _, ⟨_, rfl, v, hv, rfl⟩, rfl⟩
    exact ⟨u, v, rfl, hu, hv⟩
  · rintro ⟨u, v, rfl, hu, hv⟩
    exact ⟨u, hu, _, ⟨_, rfl, v, hv, rfl⟩, rfl⟩

/-- Behind white space the word is at the head of what is left of the line. -/
theorem cutsHead_blank (hwords : HeadWords words) :
  CutsHead (runs .space) words line front text word ↔
    front = line.takeWhile Unicode.isSpace ∧ text = line.dropWhile Unicode.isSpace ∧
      BeginsWith words text word
  := by
  constructor
  · rintro ⟨rfl, hfront, h⟩
    obtain ⟨x, rest, rfl, hx⟩ := h.exists_head hwords.areWords
    obtain ⟨htake, hdrop⟩ := takeWhile_dropWhile_append hfront (not_isSpace_of_isWord hx) rest
    exact ⟨htake.symm, hdrop.symm, h⟩
  · rintro ⟨rfl, rfl, h⟩
    exact ⟨List.takeWhile_append_dropWhile.symm, fun x => List.mem_takeWhile_imp, h⟩

/-- A list item stands behind a dash, which stands behind the white space of the line. -/
theorem cutsHead_dash :
  CutsHead dash words line front text word ↔
    ∃ blank, front = line.takeWhile Unicode.isSpace ++ '-' :: blank ∧
      line.dropWhile Unicode.isSpace = '-' :: (blank ++ text) ∧
      (∀ x ∈ blank, Unicode.isSpace x) ∧ BeginsWith words text word
  := by
  constructor
  · rintro ⟨rfl, hfront, h⟩
    obtain ⟨u, v, rfl, hu, hv⟩ := mem_dash.mp hfront
    have hdash : ¬Unicode.isSpace '-' := by decide
    obtain ⟨htake, hdrop⟩ := takeWhile_dropWhile_append hu hdash (v ++ text)
    rw [List.append_assoc, List.cons_append, htake, hdrop]
    exact ⟨v, rfl, rfl, hv, h⟩
  · rintro ⟨blank, rfl, hrest, hblank, h⟩
    refine ⟨?_, mem_dash.mpr ⟨_, blank, rfl, fun x => List.mem_takeWhile_imp, hblank⟩, h⟩
    rw [List.append_assoc, List.cons_append, ← hrest, List.takeWhile_append_dropWhile]

theorem not_isWord_of_mem_blank :
  ∀ front ∈ runs .space, ∀ x ∈ front, ¬Unicode.isWord x
  := fun _ hfront x hx hword => not_isSpace_of_isWord hword (hfront x hx)

theorem not_isWord_of_mem_dash :
  ∀ front ∈ dash, ∀ x ∈ front, ¬Unicode.isWord x
  := by
  intro front hfront x hx
  obtain ⟨u, v, rfl, hu, hv⟩ := mem_dash.mp hfront
  simp only [List.mem_append, List.mem_cons] at hx
  rcases hx with hx | rfl | hx
  · apply not_isWord_of_mem_blank u hu x hx
  · decide
  · apply not_isWord_of_mem_blank v hv x hx

/-- A lead without word characters is all that is in front of the first word. -/
theorem CutsHead.eq_takeWhile (h : CutsHead L words line front text word) (hwords : HeadWords words)
    (hL : ∀ front ∈ L, ∀ x ∈ front, ¬Unicode.isWord x) :
  front = line.takeWhile (!Unicode.isWord ·) ∧ text = line.dropWhile (!Unicode.isWord ·)
  := by
  obtain ⟨rfl, hfront, hbegins⟩ := h
  obtain ⟨x, rest, rfl, hx⟩ := hbegins.exists_head hwords.areWords
  obtain ⟨htake, hdrop⟩ := takeWhile_dropWhile_append (p := (!Unicode.isWord ·))
    (by simpa using hL front hfront) (by simpa using hx) rest
  exact ⟨htake.symm, hdrop.symm⟩

/-- If a lead has no word characters, a line has at most one head behind it. -/
theorem CutsHead.unique {front' text' word' : List Char} (h : CutsHead L words line front text word)
    (h' : CutsHead L words line front' text' word') (hwords : HeadWords words)
    (hL : ∀ front ∈ L, ∀ x ∈ front, ¬Unicode.isWord x) :
  front = front' ∧ word = word'
  := by
  obtain ⟨rfl, rfl⟩ := h.eq_takeWhile hwords hL
  obtain ⟨rfl, rfl⟩ := h'.eq_takeWhile hwords hL
  exact ⟨rfl, h.begins.unique h'.begins hwords.areWords hwords.areWords⟩

/-! ### Heads -/

/-- The head of a line is a piece of it that is classified for where it stands, behind `front`: a
line that opens a script block, or else one of the words for sections behind the white space of the
line, or else one for list items behind a dash, or else one for properties. -/
inductive Head (line : List Char) : (front word : List Char) → TokenKind → Prop where
  | opener (hopener : line ∈ opening) : Head line [] line .keyword
  | sectionName {word : List Char} (hopener : line ∉ opening)
      (h : BeginsWith sections (line.dropWhile Unicode.isSpace) word) :
    Head line (line.takeWhile Unicode.isSpace) word .keyword
  | listItem {blank text word : List Char} (hopener : line ∉ opening)
      (hsection : ∀ word, ¬BeginsWith sections (line.dropWhile Unicode.isSpace) word)
      (hrest : line.dropWhile Unicode.isSpace = '-' :: (blank ++ text))
      (hblank : ∀ x ∈ blank, Unicode.isSpace x) (h : BeginsWith listItems text word) :
    Head line (line.takeWhile Unicode.isSpace ++ '-' :: blank) word .type
  | property {word : List Char} (hopener : line ∉ opening)
      (hsection : ∀ word, ¬BeginsWith sections (line.dropWhile Unicode.isSpace) word)
      (h : BeginsWith properties (line.dropWhile Unicode.isSpace) word) :
    Head line (line.takeWhile Unicode.isSpace) word .typeIdentifier

/-- The kinds of tokens that stand at the heads of lines. -/
def headKinds : List TokenKind :=
  [.type, .typeIdentifier, .keyword]

/-! ### The rules for heads -/

/-- The rules in the order in which they are tried: four for heads, and those that are for none. -/
structure HeadRules (r₀ r₁ r₂ r₃ : Rule) (others : List Rule) : Prop where
  rules_eq : rules = r₀ :: r₁ :: r₂ :: r₃ :: others
  pattern : r₀.pattern = ofForm opener
  group : r₀.group = none
  action : r₀.action ≠ .stay
  takesSection : TakesHead r₁ (runs .space) sections
  takesListItem : TakesHead r₂ dash listItems
  takesProperty : TakesHead r₃ (runs .space) properties
  kinds : [r₀, r₁, r₂, r₃].map Rule.kind = [.keyword, .keyword, .type, .typeIdentifier]
  others : ∀ r ∈ others, r.kind ∉ headKinds

/-- The rules begin with those for openers and for the three kinds of heads. -/
theorem exists_headRules :
  ∃ r₀ r₁ r₂ r₃ others, HeadRules r₀ r₁ r₂ r₃ others
  := by
  have hblanks : (inSequence [blanks]).texts = runs .space := texts_many_set .space
  have hdash : (inSequence [blanks, char '-', blanks]).texts = dash := by
    rw [texts_inSequence]
    simp only [blanks, List.map_cons, List.map_nil, List.prod_cons, List.prod_nil, mul_one,
      texts_many_set, texts_char]
    rfl
  refine ⟨_, _, _, _, _, ⟨rfl, rfl, rfl, ?_, ?_, ?_, ?_, rfl, by simp [headKinds]⟩⟩
  · intro haction
    cases haction
  · apply takesHead_of_wordStart headWords_sections rfl
  · rw [← hdash]
    apply takesHead_of_parts headWords_listItems rfl rfl
  · rw [← hblanks]
    apply takesHead_of_parts headWords_properties rfl rfl

/-- A rule for lines that open script blocks takes such a line as a whole. -/
theorem exists_opener (hpattern : r.pattern = ofForm opener) (hgroup : r.group = none)
    (hc : Cursor.start line ≤ c) (hm : r.matchAt c = some m) :
  c = Cursor.start line ∧ line ∈ opening ∧ m.tokenStart = 0 ∧ m.tokenStop = size line
  := by
  have hread := Rule.isSome_pattern_matchAt (Option.isSome_iff_exists.mpr ⟨m, hm⟩)
  rw [hpattern, matchAt_opener hc] at hread
  obtain ⟨rfl, hopening⟩ := hread
  have hparts : r.parts? = some ⟨.empty, opener, .empty⟩ := by
    rw [Rule.parts?, hgroup, hpattern]
    rfl
  have hcloses : r.closesAt .lineEnd := by
    rw [Rule.closesAt, hparts]
    rfl
  obtain ⟨a, b, d, hcuts, hstart, hstop⟩ := Rule.exists_cuts hparts hm
  have hb := hcuts.front.le.trans hcuts.token.le
  have hnil : b.rest = [] := Rule.holds_tokenStop hcloses hm hb hstop
  refine ⟨rfl, hopening, ?_, ?_⟩
  · rw [hstart, takes_empty.mp hcuts.front]
    rfl
  · rw [hstop, Cursor.eq_moveToEnd hb hnil, Cursor.offset_moveToEnd_start]

/-- The first rule that applies is the one behind rules that do not. -/
theorem exists_first?_append {rs others : List Rule} (hrs : ∀ s ∈ rs, s.matchAt c = none)
    (hr : (r.matchAt c).isSome) :
  ∃ m, Rule.first? false c (rs ++ r :: others) = some (r, m) ∧ r.matchAt c = some m
  := by
  obtain ⟨m, hfirst⟩ := Grammar.exists_first?_cons hr others
  refine ⟨m, ?_, (Rule.first?_eq_some hfirst).2.1⟩
  have hnone : Rule.first? false c rs = none := Rule.first?_eq_none hrs
  rw [Rule.first?, List.findSome?_append, ← Rule.first?, hnone, Option.none_or]
  apply hfirst

/-- If a line has a head and no rule in front is read, the rule for the head is the first that
applies. -/
theorem TakesHead.exists_first? {rs others : List Rule} (h : TakesHead r L words)
    (hwords : HeadWords words) (hlead : ∀ front ∈ L, ∀ x ∈ front, ¬Unicode.isWord x)
    (hrs : ∀ s ∈ rs, s.matchAt (Cursor.start line) = none)
    (hcuts : CutsHead L words line front text word) :
  ∃ m, Rule.first? false (Cursor.start line) (rs ++ r :: others) = some (r, m) ∧
    m.tokenStart = size front ∧ m.tokenStop = size front + size word
  := by
  obtain ⟨m, hfirst, hm⟩ := exists_first?_append hrs (h.complete hcuts)
  obtain ⟨-, front', text', word', hcuts', hstart, hstop⟩ := h.sound le_rfl hm
  obtain ⟨rfl, rfl⟩ := hcuts.unique hcuts' hwords hlead
  exact ⟨m, hfirst, hstart, hstop⟩

/-- A rule for heads is not read in a line without one. -/
theorem TakesHead.matchAt_eq_none (h : TakesHead r L words)
    (hnone : ∀ front text word, ¬CutsHead L words line front text word) :
  r.matchAt (Cursor.start line) = none
  := by
  apply Option.eq_none_iff_forall_ne_some.mpr
  intro m hm
  obtain ⟨-, front, text, word, hcuts, -⟩ := h.sound le_rfl hm
  apply hnone front text word hcuts

/-- A word that stands at the head of a line is what the first rule that applies there takes. -/
theorem exists_first?_of_head (h : Head line front word kind) :
  ∃ r m, Rule.first? false (Cursor.start line) rules = some (r, m) ∧ r.kind = kind ∧
    m.tokenStart = size front ∧ m.tokenStop = size front + size word
  := by
  obtain ⟨r₀, r₁, r₂, r₃, others, hrules⟩ := exists_headRules
  obtain ⟨hkind₀, hkind₁, hkind₂, hkind₃⟩ : r₀.kind = .keyword ∧ r₁.kind = .keyword ∧
      r₂.kind = .type ∧ r₃.kind = .typeIdentifier := by simpa using hrules.kinds
  have hnone₀ : line ∉ opening → r₀.matchAt (Cursor.start line) = none := by
    intro hopener
    apply Option.eq_none_iff_forall_ne_some.mpr
    intro m hm
    apply hopener (exists_opener hrules.pattern hrules.group le_rfl hm).2.1
  have hnone₁ : (∀ word, ¬BeginsWith sections (line.dropWhile Unicode.isSpace) word) →
      r₁.matchAt (Cursor.start line) = none := by
    intro hsection
    apply hrules.takesSection.matchAt_eq_none
    intro front text word hcuts
    obtain ⟨-, rfl, hword⟩ := (cutsHead_blank headWords_sections).mp hcuts
    apply hsection word hword
  rw [hrules.rules_eq]
  cases h with
  | opener hopener =>
    have happlies : (r₀.matchAt (Cursor.start line)).isSome := by
      apply Rule.isSome_matchAt _ hrules.group hrules.action
      rw [hrules.pattern, matchAt_opener le_rfl]
      exact ⟨rfl, hopener⟩
    have hrs : ∀ s ∈ ([] : List Rule), s.matchAt (Cursor.start line) = none := nofun
    obtain ⟨m, hfirst, hm⟩ := exists_first?_append hrs happlies
    obtain ⟨-, -, hstart, hstop⟩ := exists_opener hrules.pattern hrules.group le_rfl hm
    refine ⟨r₀, m, hfirst, hkind₀, hstart, ?_⟩
    rw [hstop, size_nil, Nat.zero_add]
  | sectionName hopener h =>
    have hrs : ∀ s ∈ [r₀], s.matchAt (Cursor.start line) = none := by simp [hnone₀ hopener]
    obtain ⟨m, hfirst, htoken⟩ := hrules.takesSection.exists_first? headWords_sections
      not_isWord_of_mem_blank hrs ((cutsHead_blank headWords_sections).mpr ⟨rfl, rfl, h⟩)
    exact ⟨r₁, m, hfirst, hkind₁, htoken⟩
  | listItem hopener hsection hrest hblank h =>
    have hrs : ∀ s ∈ [r₀, r₁], s.matchAt (Cursor.start line) = none := by
      simp [hnone₀ hopener, hnone₁ hsection]
    obtain ⟨m, hfirst, htoken⟩ := hrules.takesListItem.exists_first? headWords_listItems
      not_isWord_of_mem_dash hrs (cutsHead_dash.mpr ⟨_, rfl, hrest, hblank, h⟩)
    exact ⟨r₂, m, hfirst, hkind₂, htoken⟩
  | property hopener hsection h =>
    -- What starts with a word does not start with a dash.
    have hnone₂ : r₂.matchAt (Cursor.start line) = none := by
      apply hrules.takesListItem.matchAt_eq_none
      intro front text word hcuts
      obtain ⟨blank, -, hrest, -⟩ := cutsHead_dash.mp hcuts
      obtain ⟨x, rest, hhead, hx⟩ := h.exists_head headWords_properties.areWords
      rw [hrest] at hhead
      cases hhead
      revert hx
      decide
    have hrs : ∀ s ∈ [r₀, r₁, r₂], s.matchAt (Cursor.start line) = none := by
      simp [hnone₀ hopener, hnone₁ hsection, hnone₂]
    obtain ⟨m, hfirst, htoken⟩ := hrules.takesProperty.exists_first? headWords_properties
      not_isWord_of_mem_blank hrs ((cutsHead_blank headWords_properties).mpr ⟨rfl, rfl, h⟩)
    exact ⟨r₃, m, hfirst, hkind₃, htoken⟩

/-- Only at the start of a line with a head does a rule for heads apply. -/
theorem exists_head_of_matchAt (hr : r ∈ rules) (hkind : r.kind ∈ headKinds)
    (hc : Cursor.start line ≤ c) (hm : r.matchAt c = some m) :
  c = Cursor.start line ∧ ∃ front word kind, Head line front word kind
  := by
  obtain ⟨r₀, r₁, r₂, r₃, others, hrules⟩ := exists_headRules
  have hcases : (∃ front word kind, Head line front word kind) ∨ line ∉ opening ∧
      ∀ word, ¬BeginsWith sections (line.dropWhile Unicode.isSpace) word := by
    by_cases hopener : line ∈ opening
    · exact .inl ⟨_, _, _, .opener hopener⟩
    · by_cases hsection : ∃ word, BeginsWith sections (line.dropWhile Unicode.isSpace) word
      · obtain ⟨word, h⟩ := hsection
        exact .inl ⟨_, _, _, .sectionName hopener h⟩
      · exact .inr ⟨hopener, not_exists.mp hsection⟩
  rw [hrules.rules_eq] at hr
  simp only [List.mem_cons] at hr
  rcases hr with rfl | rfl | rfl | rfl | hr
  · obtain ⟨hstart, hopener, -⟩ := exists_opener hrules.pattern hrules.group hc hm
    exact ⟨hstart, _, _, _, .opener hopener⟩
  · obtain ⟨hstart, front, text, word, hcuts, -⟩ := hrules.takesSection.sound hc hm
    obtain ⟨-, rfl, h⟩ := (cutsHead_blank headWords_sections).mp hcuts
    exact ⟨hstart, hcases.resolve_right fun hnone => hnone.2 word h⟩
  · obtain ⟨hstart, front, text, word, hcuts, -⟩ := hrules.takesListItem.sound hc hm
    obtain ⟨blank, -, hrest, hblank, h⟩ := cutsHead_dash.mp hcuts
    refine ⟨hstart, hcases.elim id ?_⟩
    rintro ⟨hopener, hsection⟩
    exact ⟨_, _, _, .listItem hopener hsection hrest hblank h⟩
  · obtain ⟨hstart, front, text, word, hcuts, -⟩ := hrules.takesProperty.sound hc hm
    obtain ⟨-, rfl, h⟩ := (cutsHead_blank headWords_properties).mp hcuts
    refine ⟨hstart, hcases.elim id ?_⟩
    rintro ⟨hopener, hsection⟩
    exact ⟨_, _, _, .property hopener hsection h⟩
  · apply absurd hkind (hrules.others r hr)

/-! ### The tokens of a line -/

theorem Head.ne_nil (h : Head line front word kind) :
  word ≠ []
  := by
  cases h with
  | opener hopener =>
    rintro rfl
    revert hopener
    decide
  | sectionName _ h => apply (headWords_sections.areWords.forall_mem h.listed).1
  | listItem _ _ _ _ h => apply (headWords_listItems.areWords.forall_mem h.listed).1
  | property _ _ h => apply (headWords_properties.areWords.forall_mem h.listed).1

/-- The tokens of a line with a head start with the text in front of the head and with the head. -/
theorem exists_joined_eq_of_head (hsorted : Sorted rules (Cursor.start line) ts)
    (h : Head line front word kind) :
  ∃ others, Token.joined ts = Token.piece 0 (size front) .default ++
    ⟨size front, size front + size word, kind⟩ :: others
  := by
  obtain ⟨r, m, hfirst, rfl, hstart, hstop⟩ := exists_first?_of_head h
  obtain ⟨hr, hm, -⟩ := Rule.first?_eq_some hfirst
  have hlt : m.tokenStart < m.tokenStop := by
    have hpos := mt eq_nil_of_size_eq_zero h.ne_nil
    omega
  have hkind : r.kind ≠ .default := (rules_betweenWords r hr).1
  have hrest : (Cursor.start line).rest ≠ [] := by
    intro hnil
    obtain ⟨a, b, ha, hab, -, hstop', -⟩ := (Rule.matches_of_matchAt hm).exists_token
    have hend : b.offset = 0 :=
      Cursor.forall_le_of_nil (P := (·.offset = 0)) hnil rfl b (ha.trans hab)
    omega
  obtain ⟨others, rfl⟩ := hsorted.exists_pieces_append hrest hfirst
  have hpiece : Token.piece m.tokenStart m.tokenStop r.kind =
      [⟨m.tokenStart, m.tokenStop, r.kind⟩] := if_pos hlt
  rw [RuleMatch.pieces, hpiece, List.append_assoc, List.singleton_append, hstart, hstop]
  exact ⟨_, Token.joined_piece_append_cons 0 (size front) hkind others⟩

/-- A token of such a kind stands at the head of the line. -/
theorem exists_head_of_mem (hsorted : Sorted rules (Cursor.start line) ts)
    (ht : t ∈ Token.joined ts) (hkind : t.kind ∈ headKinds) :
  ∃ front word, Head line front word t.kind ∧
    t = ⟨size front, size front + size word, t.kind⟩
  := by
  have hne : t.kind ≠ .default := by
    intro hdefault
    rw [hdefault] at hkind
    revert hkind
    decide
  obtain ⟨c, r, m, hc, hfirst, rfl⟩ := hsorted.exists_rule ht hne
  obtain ⟨hr, hm, -⟩ := Rule.first?_eq_some hfirst
  obtain ⟨rfl, front, word, kind, hhead⟩ := exists_head_of_matchAt hr hkind hc hm
  obtain ⟨r', m', hfirst', rfl, hstart, hstop⟩ := exists_first?_of_head hhead
  rw [hfirst] at hfirst'
  cases hfirst'
  refine ⟨front, word, hhead, ?_⟩
  rw [hstart, hstop]

/-- A line has one head at most. -/
theorem Head.token_eq {front' word' : List Char} {kind' : TokenKind} (h : Head line front word kind)
    (h' : Head line front' word' kind') :
  Token.mk (size front) (size front + size word) kind =
    ⟨size front', size front' + size word', kind'⟩
  := by
  obtain ⟨r, m, hfirst, rfl, hstart, hstop⟩ := exists_first?_of_head h
  obtain ⟨r', m', hfirst', rfl, hstart', hstop'⟩ := exists_first?_of_head h'
  rw [hfirst] at hfirst'
  cases hfirst'
  rw [← hstop, ← hstart, ← hstop', ← hstart']

/-- The head of a line of a pipeline definition.  If the line has one, its tokens start with the
text in front of it, which is not classified, and with the head, which is all of a line that opens a
script block.  Tokens of these kinds stand nowhere else, so there is at most one of them. -/
theorem heads_tokenizeLine (pipeline shell : String) (lookup : String → Option Grammar)
    (line : List Char) :
  let ts := ((grammar pipeline shell).tokenizeLine lookup line .root).tokens
  (∀ front word kind, Head line front word kind → ∃ others,
      ts = Token.piece 0 (size front) .default ++
        ⟨size front, size front + size word, kind⟩ :: others) ∧
    (line ∈ opening → ts = [⟨0, size line, .keyword⟩]) ∧
    (∀ t ∈ ts, t.kind ∈ headKinds → ∃ front word, Head line front word t.kind ∧
      t = ⟨size front, size front + size word, t.kind⟩) ∧
    (ts.filter (·.kind ∈ headKinds)).length ≤ 1
  := by
  intro ts
  obtain ⟨pieces, hsorted, hts⟩ :=
    (grammar pipeline shell).exists_sorted steady_pipeline lookup line
  have hcovers : Token.Covers line ts :=
    (Grammar.tokenizes_tokenizeLine lookup line (grammar pipeline shell) .root).covers
  have hjoined : ts = Token.joined pieces := hts
  rw [hjoined] at hcovers ⊢
  refine ⟨fun front word kind => exists_joined_eq_of_head hsorted, ?_,
    fun t => exists_head_of_mem hsorted, ?_⟩
  · intro hopener
    obtain ⟨others, hothers⟩ := exists_joined_eq_of_head hsorted (.opener hopener)
    rw [size_nil, Nat.zero_add] at hothers
    have hcovered := hcovers.covered
    rw [hothers] at hcovered ⊢
    obtain ⟨e, -, -, -, hstop, hcovered⟩ := hcovered
    rw [hcovered.eq_nil (by rw [← hstop, Cursor.offset_moveToEnd_start])]
    rfl
  · have hsame : ∀ t ∈ (Token.joined pieces).filter (·.kind ∈ headKinds),
        ∀ u ∈ (Token.joined pieces).filter (·.kind ∈ headKinds), t = u := by
      simp only [List.mem_filter, decide_eq_true_eq]
      rintro t ⟨ht, hkind⟩ u ⟨hu, hkind'⟩
      obtain ⟨front, word, hhead, ht⟩ := exists_head_of_mem hsorted ht hkind
      obtain ⟨front', word', hhead', hu⟩ := exists_head_of_mem hsorted hu hkind'
      rw [ht, hu]
      apply hhead.token_eq hhead'
    have hnodup := hcovers.covered.nodup.filter (·.kind ∈ headKinds)
    generalize (Token.joined pieces).filter (·.kind ∈ headKinds) = heads at hsame hnodup
    cases heads with
    | nil => exact Nat.zero_le 1
    | cons t heads =>
      rw [List.eq_replicate_of_mem fun u hu => hsame u hu t List.mem_cons_self,
        List.nodup_replicate] at hnodup
      apply hnodup

/-- A word for sections and for properties is one for sections. -/
example : Head "  tags: a".toList "  ".toList "tags".toList .keyword :=
  .sectionName (by decide) ⟨⟨"tags", by decide, rfl⟩, ": a".toList, by decide, by decide⟩

end Builtin.Pipeline

end Highlight
