import Highlight.Proofs.Partition
import Highlight.Proofs.Pieces

/-!
# Words in lines of pipeline definitions

Whichever rule a token of a line comes from, it starts and ends between words; so no word is split.
A word that starts like a name is classified, and an identifier is one whole word that is not a
constant.
-/

namespace Highlight

open Pattern Pattern.Form

/-! ### Words -/

/-- There is a word character on each side of the place. -/
def Cursor.InsideWord (c : Cursor) : Prop :=
  Assertion.isWordNeighbour c.before ∧ Assertion.isWordNeighbour c.rest.head?

/-- The places that do not split a word. -/
def Pattern.Edge.betweenWords : Edge where
  Holds c := ¬c.InsideWord
  byAssertion a := a = .wordBoundary || a = .textStart || a = .textEnd
  byNext s := s.avoids .word
  byLast s := s.avoids .word
  holds_of_assertion := by
    intro a c ha hc
    simp only [Bool.or_eq_true, decide_eq_true_eq] at ha
    rintro ⟨hbefore, hbehind⟩
    rcases ha with (rfl | rfl) | rfl
    · simp [Assertion.holds, hbefore, hbehind] at hc
    · rw [Option.isNone_iff_eq_none.mp hc] at hbefore
      cases hbefore
    · rw [List.isEmpty_iff.mp hc] at hbehind
      cases hbehind
  holds_of_next := by
    rintro s x rest c hs hx hrest ⟨-, hbehind⟩
    rw [hrest] at hbehind
    apply Bool.eq_false_iff.mp (CharSet.not_contains_of_avoids hs hx) hbehind
  holds_past := by
    rintro s x rest c hs hx hrest ⟨hbefore, -⟩
    apply Bool.eq_false_iff.mp (CharSet.not_contains_of_avoids hs hx) hbefore

namespace Text

/-- The line is cut around a word: a piece of word characters that no other one touches. -/
structure CutsWord (line front word back : List Char) : Prop where
  line_eq : line = front ++ (word ++ back)
  ne_nil : word ≠ []
  isWord : ∀ x ∈ word, Unicode.isWord x
  front : Assertion.isWordNeighbour front.getLast? = false
  back : Assertion.isWordNeighbour back.head? = false

/-- The word starts with a letter without accent or with an underscore. -/
def startsName (word : List Char) : Bool :=
  word.head?.any fun x => x.isAlpha || x == '_'

variable {line front word back : List Char} {c d : Cursor}

/-- A word has a word character at its start. -/
theorem isWordNeighbour_head (h : ∀ x ∈ word, Unicode.isWord x) (hne : word ≠ [])
    (back : List Char) :
  Assertion.isWordNeighbour (word ++ back).head?
  := by
  obtain ⟨x, word, rfl⟩ := List.exists_cons_of_ne_nil hne
  apply h x List.mem_cons_self

/-- A word has a word character at its end. -/
theorem isWordNeighbour_getLast (h : ∀ x ∈ word, Unicode.isWord x) (hne : word ≠ [])
    (front : List Char) :
  Assertion.isWordNeighbour (front ++ word).getLast?
  := by
  rw [List.getLast?_append, List.getLast?_eq_some_getLast hne, Option.some_or]
  apply h _ (List.getLast_mem hne)

/-- A word starts with a word character. -/
theorem CutsWord.exists_head (h : CutsWord line front word back) :
  ∃ x rest, word ++ back = x :: rest ∧ Unicode.isWord x
  := by
  obtain ⟨x, rest, hword⟩ := List.exists_cons_of_ne_nil h.ne_nil
  use x, rest ++ back
  rw [hword]
  use rfl
  apply h.isWord
  rw [hword]
  apply List.mem_cons_self

theorem CutsWord.size_lt (h : CutsWord line front word back) :
  size front < size line
  := by
  have hpos : size word ≠ 0 := fun hsize => h.ne_nil (eq_nil_of_size_eq_zero hsize)
  rw [h.line_eq, size_append, size_append]
  omega

/-- A word starts at a word boundary. -/
theorem CutsWord.wordBoundary_start (h : CutsWord line front word back) :
  Assertion.wordBoundary.holds (.behind front (word ++ back))
  := by
  rw [Assertion.holds, Cursor.behind, h.front, isWordNeighbour_head h.isWord h.ne_nil]
  rfl

/-- A word ends at a word boundary. -/
theorem CutsWord.wordBoundary_stop (h : CutsWord line front word back) :
  Assertion.wordBoundary.holds (.behind (front ++ word) back)
  := by
  rw [Assertion.holds, Cursor.behind, h.back, isWordNeighbour_getLast h.isWord h.ne_nil]
  rfl

/-- Only places inside the word lie between its ends. -/
theorem CutsWord.insideWord (h : CutsWord line front word back) (hc : Cursor.start line ≤ c)
    (hlt : size front < c.offset) (hlt' : c.offset < size front + size word) :
  c.InsideWord
  := by
  obtain ⟨front', hline, hc⟩ := Cursor.exists_eq_behind hc
  have hoffset : c.offset = size front' := congrArg Cursor.offset hc
  rw [h.line_eq, eq_comm] at hline
  rcases List.append_eq_append_iff.mp hline with ⟨u, rfl, -⟩ | ⟨u, rfl, hword⟩
  · rw [size_append] at hlt
    omega
  · rw [size_append] at hoffset
    rcases List.append_eq_append_iff.mp hword with ⟨v, rfl, -⟩ | ⟨v, hword, hrest⟩
    · rw [size_append] at hoffset
      omega
    · have hu : u ≠ [] := by
        rintro rfl
        rw [size_nil] at hoffset
        omega
      have hv : v ≠ [] := by
        rintro rfl
        rw [hword, List.append_nil] at hlt'
        omega
      have hisWord := h.isWord
      rw [hword, List.forall_mem_append] at hisWord
      rw [hc, hrest]
      use isWordNeighbour_getLast hisWord.1 hu _, isWordNeighbour_head hisWord.2 hv _

/-- Between two boundaries of words, a text of word characters is read as a whole word. -/
theorem takes_wholeWord {fs : List Form} (h : (inSequence fs).asksNothing)
    (hword : ∀ w ∈ (inSequence fs).texts, w ≠ [] ∧ ∀ x ∈ w, Unicode.isWord x)
    (hc : Cursor.start line ≤ c) :
  (inSequence (assertion .wordBoundary :: (fs ++ [assertion .wordBoundary]))).Takes c d ↔
    ∃ front word back, CutsWord line front word back ∧ word ∈ (inSequence fs).texts ∧
      c = .behind front (word ++ back) ∧ d = .behind (front ++ word) back
  := by
  rw [takes_between h]
  constructor
  · rintro ⟨hstart, ⟨word, htext, hrest, hd⟩, hstop⟩
    obtain ⟨front, hline, hc⟩ := Cursor.exists_eq_behind hc
    obtain ⟨hne, hisWord⟩ := hword word htext
    rw [hrest] at hline hc
    rw [hc, Cursor.along_behind] at hd
    rw [hc, Assertion.holds, Cursor.behind, isWordNeighbour_head hisWord hne] at hstart
    rw [hd, Assertion.holds, Cursor.behind, isWordNeighbour_getLast hisWord hne] at hstop
    refine ⟨front, word, d.rest, ⟨hline, hne, hisWord, ?_, ?_⟩, htext, hc, hd⟩
    · simpa using hstart
    · simpa using hstop
  · rintro ⟨front, word, back, hcuts, htext, rfl, rfl⟩
    have hspans : Cursor.Spans (inSequence fs).texts (.behind front (word ++ back))
        (.behind (front ++ word) back) :=
      ⟨word, htext, rfl, (Cursor.along_behind _ _ _ _).symm⟩
    use hcuts.wordBoundary_start, hspans, hcuts.wordBoundary_stop

end Text

/-! ### Tokens -/

/-- What holds of the ends of classified tokens, and of the ends of all tokens together, holds of
the ends of each token, because no two unclassified tokens follow each other. -/
theorem Cursor.CoveredBy.forall_ends {P : Nat → Prop} {c d : Cursor} {ts : List Token}
    (h : c.CoveredBy ts d)
    (halternate : ts.IsChain fun t u => ¬(t.kind = .default ∧ u.kind = .default))
    (hc : P c.offset) (hd : P d.offset)
    (hts : ∀ t ∈ ts, t.kind ≠ .default → P t.start ∧ P t.stop) :
  ∀ t ∈ ts, P t.start ∧ P t.stop
  := by
  induction ts generalizing c with
  | nil => nofun
  | cons t ts ih =>
    obtain ⟨e, -, -, hstart, hstop, h⟩ := h
    have he : P e.offset := by
      by_cases ht : t.kind = .default
      · cases ts with
        | nil =>
          obtain rfl : e = d := h
          apply hd
        | cons u ts =>
          obtain ⟨_, -, -, hstart', -⟩ := h
          have hu : u.kind ≠ .default :=
            fun hu => (List.isChain_cons_cons.mp halternate).1 ⟨ht, hu⟩
          rw [← hstart']
          apply (hts u (List.mem_cons_of_mem t List.mem_cons_self) hu).1
      · rw [← hstop]
        apply (hts t List.mem_cons_self ht).2
    rw [List.forall_mem_cons, hstart, hstop]
    use ⟨hc, he⟩
    apply ih h halternate.tail he fun u hu => hts u (List.mem_cons_of_mem t hu)

namespace Builtin.Pipeline

open Text

variable {line front word back : List Char} {c : Cursor} {r : Rule} {m : RuleMatch} {t : Token}
  {ts : List Token}

/-- The tokens of all rules but that for comments start and end between words. -/
theorem rules_betweenWords :
  ∀ r ∈ rules, r.kind ≠ .default ∧ r.leadAvoids .word ∧ r.opensAt .betweenWords ∧
    (r.closesAt .betweenWords ∨ isComment r)
  := by decide +kernel

/-- No word character is at the end of a line. -/
theorem isWordNeighbour_of_newline {o : Option Char} (h : ∀ x ∈ o, x = '\n') :
  Assertion.isWordNeighbour o = false
  := by
  cases o with
  | none => rfl
  | some x =>
    rw [h x rfl]
    rfl

/-- A token starts and ends between words. -/
theorem exists_token (hr : r ∈ rules) (hm : r.matchAt c = some m) :
  ∃ a b, c ≤ a ∧ a ≤ b ∧ m.tokenStart = a.offset ∧ m.tokenStop = b.offset ∧
    ¬a.InsideWord ∧ ¬b.InsideWord
  := by
  obtain ⟨-, -, hopens, hcloses⟩ := rules_betweenWords r hr
  obtain ⟨a, b, ha, hab, hstart, hstop⟩ := (Rule.matches_of_matchAt hm).token
  refine ⟨a, b, ha, hab, hstart, hstop, Rule.holds_tokenStart hopens hm ha hstart, ?_⟩
  rcases hcloses with hcloses | hcomment
  · apply Rule.holds_tokenStop hcloses hm (ha.trans hab) hstop
  · rintro ⟨-, hbehind⟩
    rw [isWordNeighbour_of_newline (head_of_isComment hcomment hm (ha.trans hab) hstop)] at hbehind
    cases hbehind

/-- No token starts or ends inside a word. -/
theorem not_insideWord (hcovers : Token.Covers line (Token.joined ts))
    (hsorted : Sorted rules (Cursor.start line) ts) (ht : t ∈ Token.joined ts)
    (hc : Cursor.start line ≤ c) (hend : t.start = c.offset ∨ t.stop = c.offset) :
  ¬c.InsideWord
  := by
  have hends := hcovers.covered.forall_ends (P := fun n => ∀ e, Cursor.start line ≤ e →
    e.offset = n → ¬e.InsideWord) hcovers.partition.alternate ?_ ?_ ?_ t ht
  · apply hend.elim (fun h => hends.1 c hc h.symm) fun h => hends.2 c hc h.symm
  · intro e he hoffset
    rw [← Cursor.eq_of_offset_eq le_rfl he hoffset.symm]
    rintro ⟨⟨⟩, -⟩
  · intro e he hoffset
    rw [Cursor.eq_of_offset_eq he (Cursor.le_moveToEnd _) hoffset]
    rintro ⟨-, hbehind⟩
    rw [Cursor.rest_moveToEnd] at hbehind
    cases hbehind
  · intro u hu hkind
    obtain ⟨d, r, m, hd, hfirst, rfl⟩ := hsorted.exists_rule hu hkind
    obtain ⟨hr, hm, -⟩ := Rule.first?_eq_some hfirst
    obtain ⟨a, b, ha, hab, hstart, hstop, hopens, hcloses⟩ := exists_token hr hm
    constructor
    · intro e he hoffset
      rw [Cursor.eq_of_offset_eq he (hd.trans ha) (hoffset.trans hstart)]
      apply hopens
    · intro e he hoffset
      rw [Cursor.eq_of_offset_eq he (hd.trans (ha.trans hab)) (hoffset.trans hstop)]
      apply hcloses

/-! ### Identifiers and constants -/

theorem contains_nameStart (x : Char) :
  (CharSet.union letters (.single '_')).contains x = (x.isAlpha || x == '_')
  := by
  have hletters : letters.contains x = x.isAlpha := by
    have halpha : x.isAlpha = (x.isLower || x.isUpper) := Bool.or_comm _ _
    have hupper : x.isUpper = (decide ('A'.val ≤ x.val) && decide (x.val ≤ 'Z'.val)) :=
      Bool.decide_and _ _
    rw [halpha, hupper]
    rfl
  have hunderscore : (CharSet.single '_').contains x = (x == '_') := by
    rw [Bool.eq_iff_iff, contains_single, beq_iff_eq]
  rw [CharSet.contains, hletters, hunderscore]

/-- The texts of an identifier are the words that start like a name. -/
theorem mem_texts_identifier :
  word ∈ (inSequence identifier).texts ↔ startsName word ∧ ∀ x ∈ word, Unicode.isWord x
  := by
  have hstart : (CharSet.union letters (.single '_')).isInWords := by decide +kernel
  rw [texts_inSequence]
  simp only [identifier, List.map_cons, List.map_nil, List.prod_cons, List.prod_nil, mul_one,
    texts_many_set]
  rw [Language.mem_mul]
  constructor
  · rintro ⟨_, ⟨x, hx, rfl⟩, u, hu, rfl⟩
    constructor
    · rw [contains_nameStart] at hx
      apply hx
    · rw [List.singleton_append, List.forall_mem_cons]
      exact ⟨CharSet.isWord_of_isInWords hstart hx, hu⟩
  · rintro ⟨hname, hword⟩
    cases word with
    | nil => cases hname
    | cons x word =>
      rw [List.forall_mem_cons] at hword
      refine ⟨[x], ⟨x, ?_, rfl⟩, word, hword.2, rfl⟩
      rw [contains_nameStart]
      apply hname

theorem parts?_of_identifier :
  ∀ r ∈ rules, r.kind = .identifier → r.parts? = some ⟨.empty, identifierWord, .empty⟩
  := by decide +kernel

theorem exists_identifier :
  ∃ r ∈ rules, r.parts? = some ⟨.empty, identifierWord, .empty⟩
  := ⟨rules.getLast nofun, List.getLast_mem _, rfl⟩

/-- The rules up to the one for constants are in front of the one for identifiers. -/
theorem exists_constant :
  ∃ r ∈ rules.take 5, r.parts? = some ⟨.empty, wholeWord constants, .empty⟩
  := ⟨(rules.take 5).getLast nofun, List.getLast_mem _, rfl⟩

/-- The form for identifiers takes the whole words that start like a name. -/
theorem takes_identifierWord {d : Cursor} (hc : Cursor.start line ≤ c) :
  identifierWord.Takes c d ↔
    ∃ front word back, CutsWord line front word back ∧ startsName word ∧
      c = .behind front (word ++ back) ∧ d = .behind (front ++ word) back
  := by
  have hword : ∀ w ∈ (inSequence identifier).texts, w ≠ [] ∧ ∀ x ∈ w, Unicode.isWord x := by
    intro w hw
    obtain ⟨hname, hw⟩ := mem_texts_identifier.mp hw
    refine ⟨?_, hw⟩
    rintro rfl
    cases hname
  apply (takes_wholeWord rfl hword hc).trans
  constructor
  · rintro ⟨front, word, back, hcuts, htext, h⟩
    exact ⟨front, word, back, hcuts, (mem_texts_identifier.mp htext).1, h⟩
  · rintro ⟨front, word, back, hcuts, hname, h⟩
    exact ⟨front, word, back, hcuts, mem_texts_identifier.mpr ⟨hname, hcuts.isWord⟩, h⟩

/-- The form for constants takes the whole words that are constants. -/
theorem takes_constant {d : Cursor} (hc : Cursor.start line ≤ c) :
  (wholeWord constants).Takes c d ↔
    ∃ front word back, CutsWord line front word back ∧ word ∈ listed constants ∧
      c = .behind front (word ++ back) ∧ d = .behind (front ++ word) back
  := by
  have htexts : (inSequence [group 1 (oneOf constants)]).texts = listed constants :=
    texts_oneOf nofun
  have hword : ∀ w ∈ (inSequence [group 1 (oneOf constants)]).texts,
      w ≠ [] ∧ ∀ x ∈ w, Unicode.isWord x := by
    have hconstants : ∀ w ∈ constants, w.toList ≠ [] ∧ w.toList.all Unicode.isWord := by decide
    rw [htexts]
    rintro _ ⟨w, hw, rfl⟩
    exact ⟨(hconstants w hw).1, List.all_eq_true.mp (hconstants w hw).2⟩
  rw [← htexts]
  apply takes_wholeWord rfl hword hc

/-- A word that starts like a name is classified. -/
theorem exists_classified (hsorted : Sorted rules (Cursor.start line) ts)
    (hcuts : CutsWord line front word back) (hname : startsName word) :
  ∃ t ∈ Token.joined ts, t.start ≤ size front ∧ size front < t.stop ∧ t.kind ≠ .default
  := by
  have hplace : Cursor.start line ≤ .behind front (word ++ back) := by
    rw [hcuts.line_eq]
    apply Cursor.start_le_behind
  obtain ⟨x, rest, hhead, hx⟩ := hcuts.exists_head
  have hrest : word ++ back ≠ [] := by simp [hhead]
  rcases hsorted.passes hplace hrest with ⟨d, r, m, -, hd, hfirst, hlt, htoken⟩ | hnone
  · obtain ⟨hr, hm, -⟩ := Rule.first?_eq_some hfirst
    obtain ⟨hkind, havoids, -⟩ := rules_betweenWords r hr
    have hle : m.tokenStart ≤ size front := by
      by_contra hlt
      have hnot := Rule.not_contains_of_lt_tokenStart havoids hm hd (Nat.not_le.mp hlt) hhead
      apply Bool.eq_false_iff.mp hnot hx
    exact ⟨_, htoken (Nat.lt_of_le_of_lt hle hlt) hkind, hle, hlt, hkind⟩
  · obtain ⟨r, hr, hparts⟩ := exists_identifier
    have htakes := (takes_identifierWord hplace).mpr ⟨front, word, back, hcuts, hname, rfl, rfl⟩
    have happlies := Rule.isSome_matchAt_of_cuts hparts rfl
      ⟨takes_empty.mpr rfl, htakes, takes_empty.mpr rfl⟩
    rw [hnone r hr] at happlies
    cases happlies

/-- An identifier is a whole word that starts like a name, and no constant. -/
theorem exists_cutsWord (hsorted : Sorted rules (Cursor.start line) ts) (ht : t ∈ Token.joined ts)
    (hkind : t.kind = .identifier) :
  ∃ front word back, CutsWord line front word back ∧ startsName word ∧
    (∀ w ∈ constants, word ≠ w.toList) ∧ t = ⟨size front, size front + size word, .identifier⟩
  := by
  have hne : t.kind ≠ .default := by
    rw [hkind]
    nofun
  obtain ⟨c, r, m, hc, hfirst, rfl⟩ := hsorted.exists_rule ht hne
  obtain ⟨hr, hm, -⟩ := Rule.first?_eq_some hfirst
  obtain ⟨a, b, d, hcutsToken, hstart, hstop⟩ :=
    Rule.exists_cuts (parts?_of_identifier r hr hkind) hm
  obtain rfl := takes_empty.mp hcutsToken.front
  obtain ⟨front, word, back, hcuts, hname, rfl, rfl⟩ :=
    (takes_identifierWord hc).mp hcutsToken.token
  refine ⟨front, word, back, hcuts, hname, ?_, ?_⟩
  · -- The rule for constants would have been tried before.
    intro w hw hword
    obtain ⟨s, hs, hparts⟩ := exists_constant
    have htakes := (takes_constant hc).mpr ⟨front, word, back, hcuts, ⟨w, hw, hword⟩, rfl, rfl⟩
    have happlies := Rule.isSome_matchAt_of_cuts hparts rfl
      ⟨takes_empty.mpr rfl, htakes, takes_empty.mpr rfl⟩
    rw [← List.take_append_drop 5 rules] at hfirst
    have hearlier := Rule.mem_of_first?_append hs happlies hfirst
    have hkinds : ∀ s ∈ rules.take 5, s.kind ≠ .identifier := by decide +kernel
    apply hkinds r hearlier hkind
  · rw [hstart, hstop, show r.kind = .identifier from hkind, Cursor.behind, Cursor.behind,
      size_append]

/-- Words are never split: each word of a line lies inside one token, which is classified if the
word starts like a name.  The identifiers are whole words that start like names, and no
constants. -/
theorem words_tokenizeLine (pipeline shell : String) (lookup : String → Option Grammar)
    (line : List Char) :
  let ts := ((grammar pipeline shell).tokenizeLine lookup line .root).tokens
  (∀ front word back, CutsWord line front word back →
      ∃ t ∈ ts, t.start ≤ size front ∧ size front + size word ≤ t.stop ∧
        (startsName word → t.kind ≠ .default)) ∧
    ∀ t ∈ ts, t.kind = .identifier →
      ∃ front word back, CutsWord line front word back ∧ startsName word ∧
        (∀ w ∈ constants, word ≠ w.toList) ∧
        t = ⟨size front, size front + size word, .identifier⟩
  := by
  intro ts
  obtain ⟨pieces, hsorted, hts⟩ :=
    (grammar pipeline shell).exists_sorted steady_pipeline lookup line
  have hcovers : Token.Covers line ts :=
    (Grammar.tokenizes_tokenizeLine lookup line (grammar pipeline shell) .root).covers
  have hjoined : ts = Token.joined pieces := hts
  rw [hjoined] at hcovers ⊢
  constructor
  · intro front word back hcuts
    have hcovered : ∃ t ∈ Token.joined pieces, t.start ≤ size front ∧ size front < t.stop ∧
        (startsName word → t.kind ≠ .default) := by
      by_cases hname : startsName word
      · obtain ⟨t, ht, hstart, hlt, hkind⟩ := exists_classified hsorted hcuts hname
        exact ⟨t, ht, hstart, hlt, fun _ => hkind⟩
      · obtain ⟨t, hfind⟩ :=
          Option.isSome_iff_exists.mp ((hcovers.find?_covers (size front)).mpr hcuts.size_lt)
        have hfound := List.find?_some hfind
        simp only [Token.covers, Bool.and_eq_true, decide_eq_true_eq] at hfound
        exact ⟨t, List.mem_of_find?_eq_some hfind, hfound.1, hfound.2, fun h => absurd h hname⟩
    obtain ⟨t, ht, hstart, hlt, hkind⟩ := hcovered
    refine ⟨t, ht, hstart, ?_, hkind⟩
    by_contra hsplit
    obtain ⟨a, b, ha, hab, -, -, hstop⟩ := hcovers.covered.exists_ends ht
    apply not_insideWord hcovers hsorted ht (ha.trans hab) (.inr hstop)
    apply hcuts.insideWord (ha.trans hab) <;> omega
  · intro t ht hkind
    apply exists_cutsWord hsorted ht hkind

end Builtin.Pipeline

end Highlight
