import Mathlib.Data.List.TakeWhile
import Highlight.Language
import Highlight.Proofs.Pieces
import Highlight.Proofs.ScriptBlock
import Highlight.Proofs.Partition

/-!
# Comments

An editor takes a line for a comment if a hash character is the first one behind its white space.
The grammars agree: no token of another kind starts in the white space in front of a hash character
or at the hash character itself, so such a line has a single classified token.
-/

namespace Highlight

open Pattern Pattern.Form

/-! ### Comment lines -/

/-- A line is a comment to the editor exactly if a hash character follows its white space. -/
theorem LanguageConfiguration.isCommentLine_iff {line : List Char} :
  hashComments.isCommentLine line ↔
    ∃ front rest, line = front ++ '#' :: rest ∧ ∀ x ∈ front, Unicode.isSpace x
  := by
  have hmarker : hashComments.isCommentLine line =
      ['#'].isPrefixOf (line.dropWhile Unicode.isSpace) := rfl
  rw [hmarker, List.isPrefixOf_iff_prefix]
  constructor
  · rintro ⟨rest, hrest⟩
    refine ⟨line.takeWhile Unicode.isSpace, rest, ?_, fun x => List.mem_takeWhile_imp⟩
    conv_lhs => rw [← List.takeWhile_append_dropWhile (p := Unicode.isSpace) (l := line), ← hrest]
    rfl
  · rintro ⟨front, rest, rfl, hfront⟩
    rw [List.dropWhile_append_of_pos hfront]
    exact ⟨rest, rfl⟩

namespace Builtin

variable {rules : List Rule} {r : Rule} {m : RuleMatch} {line : List Char} {a c d e : Cursor}
  {t : Token} {ts : List Token} {rest : List Char}

/-! ### The rule for comments -/

/-- The rule for comments has its token as its only part. -/
theorem parts?_of_isComment (h : isComment r) :
  r.parts? = some ⟨.empty, hashComment, .empty⟩
  := by
  obtain ⟨hform, hgroup⟩ := Bool.and_eq_true_iff.mp h
  rw [Rule.parts?, of_decide_eq_true hgroup, of_decide_eq_true hform]

/-- A comment starts where it is tried, with a hash character. -/
theorem exists_rest_of_isComment (h : isComment r) (hm : r.matchAt c = some m) :
  m.tokenStart = c.offset ∧ ∃ rest, c.rest = '#' :: rest
  := by
  obtain ⟨a, b, d, hcuts, hstart, -⟩ := Rule.exists_cuts (parts?_of_isComment h) hm
  obtain rfl := takes_empty.mp hcuts.front
  refine ⟨hstart, ?_⟩
  obtain ⟨e, hhash, -⟩ := takes_inSequence_cons.mp hcuts.token
  obtain ⟨x, rest, hrest, hx, -⟩ := takes_set.mp hhash
  rw [(contains_single '#' x).mp hx] at hrest
  exact ⟨rest, hrest⟩

/-- The rule for comments applies wherever a hash character stands. -/
theorem isSome_matchAt_of_isComment (h : isComment r) (hrest : c.rest = '#' :: rest) :
  (r.matchAt c).isSome
  := by
  have hspans : Cursor.Spans hashComment.texts c (c.past '#' rest) := by
    refine ⟨['#'], ?_, hrest, ?_⟩
    · rw [hashComment, texts_inSequence]
      simp only [List.map_cons, List.map_nil, List.prod_cons, List.prod_nil, mul_one, texts_char,
        texts_many_set]
      exact Language.mem_mul.mpr ⟨['#'], rfl, [], nofun, rfl⟩
    · rw [Cursor.along_cons]
      rfl
  apply Rule.isSome_matchAt_of_cuts (parts?_of_isComment h) rfl
  exact ⟨takes_empty.mpr rfl, (takes_of_asksNothing rfl).mpr hspans, takes_empty.mpr rfl⟩

/-- Without newlines a comment goes on to the end of the line. -/
theorem tokenStop_of_isComment (hline : '\n' ∉ line) (hc : Cursor.start line ≤ c)
    (h : isComment r) (hm : r.matchAt c = some m) :
  m.tokenStop = Text.size line
  := by
  obtain ⟨a, b, ha, hab, -, hstop, -⟩ := (Rule.matches_of_matchAt hm).exists_token
  have hb := hc.trans (ha.trans hab)
  obtain ⟨front, hfront, -⟩ := Cursor.exists_eq_behind hb
  have hrest : b.rest = [] := by
    cases hrest : b.rest with
    | nil => rfl
    | cons y rest =>
      have hy := head_of_isComment h hm (ha.trans hab) hstop y (by rw [hrest]; rfl)
      rw [hrest, hy] at hfront
      exfalso
      apply hline
      simp [hfront]
  rw [hstop, Cursor.eq_moveToEnd hb hrest, Cursor.offset_moveToEnd_start]

/-! ### The other rules -/

/-- White space and the hash character. -/
def commentLead : CharSet :=
  .union .space (.single '#')

/-- The places in front of neither white space nor a hash character. -/
def offLead : Edge where
  Holds c := ∀ x ∈ c.rest.head?, commentLead.contains x = false
  byAssertion a := a = .textEnd
  byNext s := s.avoids commentLead
  byLast _ := false
  holds_of_assertion := by
    intro a c ha hc x hx
    rw [of_decide_eq_true ha] at hc
    rw [List.isEmpty_iff.mp hc] at hx
    cases hx
  holds_of_next := by
    intro s x rest c hs hx hrest y hy
    rw [hrest] at hy
    cases hy
    apply CharSet.not_contains_of_avoids hs hx
  holds_past := nofun

/-- Rules of which one is for comments.  The tokens of the others do not start at white space or at
a hash character, unless they go on to the end of the line and have no hash character in them. -/
structure SortsComments (rules : List Rule) : Prop where
  exists_comment : ∃ r ∈ rules, isComment r
  comment : ∀ r ∈ rules, isComment r = decide (r.kind = .comment)
  classified : ∀ r ∈ rules, r.kind ≠ .default
  lead : ∀ r ∈ rules, r.leadAvoids (.single '#')
  other : ∀ r ∈ rules, r.kind ≠ .comment →
    r.opensAt offLead ∨ r.tokenAvoids (.single '#') ∧ r.closesAt Edge.lineEnd

theorem sortsComments_pipeline :
  SortsComments Pipeline.rules
  where
  exists_comment := by decide +kernel
  comment := by decide +kernel
  classified := by decide +kernel
  lead := by decide +kernel
  other := by decide +kernel

theorem sortsComments_shell :
  SortsComments Shell.rules
  where
  exists_comment := by decide +kernel
  comment := by decide +kernel
  classified := by decide +kernel
  lead := by decide +kernel
  other := by decide +kernel

/-! ### Lines with hash characters -/

/-- The rule for comments is the only one that makes comments. -/
theorem SortsComments.isComment (h : SortsComments rules) (hr : r ∈ rules) :
  isComment r ↔ r.kind = .comment
  := by rw [h.comment r hr, decide_eq_true_iff]

/-- Every hash character is classified. -/
theorem SortsComments.exists_classified (h : SortsComments rules)
    (hsorted : Sorted rules (Cursor.start line) ts) (he : Cursor.start line ≤ e)
    (hrest : e.rest = '#' :: rest) :
  ∃ t ∈ Token.joined ts, t.start ≤ e.offset ∧ e.offset < t.stop ∧ t.kind ≠ .default
  := by
  have hne : e.rest ≠ [] := by simp [hrest]
  rcases hsorted.passes he hne with ⟨d, r, m, -, hd, hfirst, hlt, htoken⟩ | hnone
  · obtain ⟨hr, hm, -⟩ := Rule.first?_eq_some hfirst
    have hkind := h.classified r hr
    have hle : m.tokenStart ≤ e.offset := by
      by_contra hlead
      have hnot :=
        Rule.not_contains_of_lt_tokenStart (h.lead r hr) hm hd (Nat.not_le.mp hlead) hrest
      apply Bool.eq_false_iff.mp hnot ((contains_single '#' '#').mpr rfl)
    exact ⟨_, htoken (Nat.lt_of_le_of_lt hle hlt) hkind, hle, hlt, hkind⟩
  · obtain ⟨r, hr, hcomment⟩ := h.exists_comment
    have happlies := isSome_matchAt_of_isComment hcomment hrest
    rw [hnone r hr] at happlies
    cases happlies

/-- A comment goes from a hash character to the end of the line. -/
theorem SortsComments.exists_comment_eq (h : SortsComments rules)
    (hsorted : Sorted rules (Cursor.start line) ts) (hline : '\n' ∉ line)
    (ht : t ∈ Token.joined ts) (hkind : t.kind = .comment) :
  ∃ front rest, line = front ++ '#' :: rest ∧
    t = ⟨Text.size front, Text.size line, .comment⟩
  := by
  have hne : t.kind ≠ .default := by
    rw [hkind]
    nofun
  obtain ⟨d, r, m, hd, hfirst, rfl⟩ := hsorted.exists_rule ht hne
  obtain ⟨hr, hm, -⟩ := Rule.first?_eq_some hfirst
  have hcomment := (h.isComment hr).mpr hkind
  obtain ⟨hstart, rest, hrest⟩ := exists_rest_of_isComment hcomment hm
  obtain ⟨front, hfront, -, hoffset⟩ := Cursor.start_le_iff.mp hd
  rw [hrest] at hfront
  refine ⟨front, rest, hfront, ?_⟩
  rw [hstart, hoffset, tokenStop_of_isComment hline hd hcomment hm,
    show r.kind = .comment from hkind]

/-- Only comments start at a hash character, or in white space in front of one. -/
theorem SortsComments.kind_eq_comment (h : SortsComments rules) (hr : r ∈ rules)
    (hm : r.matchAt d = some m) (hda : d ≤ a) (hstart : m.tokenStart = a.offset)
    {blank : List Char} (hblank : ∀ x ∈ blank, Unicode.isSpace x)
    (hrest : a.rest = blank ++ '#' :: rest) :
  r.kind = .comment
  := by
  by_contra hcomment
  rcases h.other r hr hcomment with hopens | ⟨havoids, hcloses⟩
  · have hoff : ∀ x ∈ a.rest.head?, commentLead.contains x = false :=
      Rule.holds_tokenStart hopens hm hda hstart
    rw [hrest] at hoff
    cases blank with
    | nil =>
      have hhash := hoff '#' rfl
      revert hhash
      decide
    | cons x blank =>
      obtain ⟨hspace, -⟩ := Bool.or_eq_false_iff.mp (hoff x rfl)
      apply Bool.eq_false_iff.mp hspace (hblank x List.mem_cons_self)
  · -- The token goes past the hash character, which would be one of its characters.
    obtain ⟨a', b, hda', hab, hstart', hstop⟩ := (Rule.matches_of_matchAt hm).token
    obtain rfl := Cursor.eq_of_offset_eq hda hda' (hstart.symm.trans hstart')
    have hnil : b.rest = [] := Rule.holds_tokenStop hcloses hm (hda.trans hab) hstop
    have he := Cursor.le_along hrest
    have hlt : (a.along blank ('#' :: rest)).offset < b.offset := by
      by_contra hge
      have hlength :=
        Cursor.length_rest_le (Cursor.le_of_offset_le hab he (Nat.not_lt.mp hge))
      rw [hnil] at hlength
      cases hlength
    have hnot := Rule.not_contains_of_lt_tokenStop havoids hm (hda.trans he)
      (hstart.trans_le (Cursor.offset_le he)) (hlt.trans_eq hstop.symm) rfl
    apply Bool.eq_false_iff.mp hnot ((contains_single '#' '#').mpr rfl)

theorem SortsComments.eq_comment (h : SortsComments rules)
    (hsorted : Sorted rules (Cursor.start line) ts) (hline : '\n' ∉ line)
    (ht : t ∈ Token.joined ts) (hkind : t.kind ≠ .default) (ha : Cursor.start line ≤ a)
    (hstart : t.start = a.offset) {blank : List Char} (hblank : ∀ x ∈ blank, Unicode.isSpace x)
    (hrest : a.rest = blank ++ '#' :: rest) :
  blank = [] ∧ t = ⟨a.offset, Text.size line, .comment⟩
  := by
  obtain ⟨d, r, m, hd, hfirst, rfl⟩ := hsorted.exists_rule ht hkind
  obtain ⟨hr, hm, -⟩ := Rule.first?_eq_some hfirst
  have hda : d ≤ a := Cursor.le_of_offset_le hd ha
    ((Rule.matches_of_matchAt hm).offset_le.1.trans_eq hstart)
  have hcomment := h.kind_eq_comment hr hm hda hstart hblank hrest
  have hisComment := (h.isComment hr).mpr hcomment
  obtain ⟨htokenStart, rest', hrest'⟩ := exists_rest_of_isComment hisComment hm
  obtain rfl : a = d := Cursor.eq_of_offset_eq ha hd (hstart.symm.trans htokenStart)
  constructor
  · rw [hrest'] at hrest
    cases blank with
    | nil => rfl
    | cons x blank =>
      obtain ⟨rfl, -⟩ := List.cons_eq_cons.mp hrest
      apply absurd (hblank '#' List.mem_cons_self)
      decide
  · rw [htokenStart, tokenStop_of_isComment hline ha hisComment hm, hcomment]

/-! ### The tokens of a line -/

/-- The tokens of the line have its hash characters in comments, or behind other classified text. -/
structure Commented (line : List Char) (ts : List Token) : Prop where
  /-- A comment goes from a hash character to the end of the line. -/
  toEnd : ∀ t ∈ ts, t.kind = .comment → ∃ front rest, line = front ++ '#' :: rest ∧
    t = ⟨Text.size front, Text.size line, .comment⟩
  noHash : ∀ t ∈ ts, t.kind = .default → '#' ∉ t.text line
  /-- Behind white space only, the first hash character starts a comment. -/
  whole : ∀ front rest, line = front ++ '#' :: rest → (∀ x ∈ front, Unicode.isSpace x) →
    ts = Token.piece 0 (Text.size front) .default ++
      [⟨Text.size front, Text.size line, .comment⟩]

/-- No hash character is left unclassified. -/
theorem SortsComments.not_mem_text (h : SortsComments rules)
    (hcovers : Token.Covers line (Token.joined ts))
    (hsorted : Sorted rules (Cursor.start line) ts) (ht : t ∈ Token.joined ts)
    (hkind : t.kind = .default) :
  '#' ∉ t.text line
  := by
  intro hmem
  obtain ⟨u, v, htext⟩ := List.append_of_mem hmem
  obtain ⟨a, b, ha, hab, hlt, hstart, hstop⟩ := hcovers.covered.exists_ends ht
  obtain ⟨hrest, hb⟩ := Cursor.along_text ha hab hlt hstart hstop
  rw [htext, List.append_assoc] at hrest
  have hae := Cursor.le_along hrest
  have heb : (a.along u ('#' :: v ++ b.rest)).offset < b.offset := by
    rw [hb, htext]
    simp [Cursor.along, Text.size_append]
    have := ('#').utf8Size_pos
    omega
  obtain ⟨s, hs, hstart', hstop', hne⟩ := h.exists_classified hsorted (ha.trans hae) rfl
  have hts := hcovers.covered.unique ht hs
    ⟨hstart.trans_le (Cursor.offset_le hae), heb.trans_eq hstop.symm⟩ ⟨hstart', hstop'⟩
  rw [← hts] at hne
  apply hne hkind

/-- A line with a hash character behind its white space is this white space and a comment. -/
theorem SortsComments.tokens_eq (h : SortsComments rules)
    (hcovers : Token.Covers line (Token.joined ts))
    (hsorted : Sorted rules (Cursor.start line) ts) (hline : '\n' ∉ line) {front : List Char}
    (hfront : line = front ++ '#' :: rest) (hblank : ∀ x ∈ front, Unicode.isSpace x) :
  Token.joined ts = Token.piece 0 (Text.size front) .default ++
    [⟨Text.size front, Text.size line, .comment⟩]
  := by
  have hplace : Cursor.start line ≤ .behind front ('#' :: rest) := by
    rw [hfront]
    apply Cursor.start_le_behind
  -- A classified token that starts no later than at the hash character is the comment there.
  have hcomment : ∀ t ∈ Token.joined ts, t.kind ≠ .default → t.start ≤ Text.size front →
      t = ⟨Text.size front, Text.size line, .comment⟩ := by
    intro t ht hkind hle
    obtain ⟨a, -, ha, -, -, hstart, -⟩ := hcovers.covered.exists_ends ht
    rw [hstart] at hle
    obtain ⟨blank, hrest, hbehind⟩ := Cursor.le_of_offset_le ha hplace hle
    obtain ⟨u, hline', hu, hoffset⟩ := Cursor.start_le_iff.mp ha
    have hsuffix : front = u ++ blank := by
      rw [hfront, hrest, ← List.append_assoc] at hline'
      apply List.append_cancel_right hline'
    obtain ⟨rfl, rfl⟩ := h.eq_comment hsorted hline ht hkind ha hstart
      (fun x hx => hblank x (hsuffix ▸ List.mem_append_right u hx)) hrest
    rw [hoffset, hsuffix, List.append_nil]
  obtain ⟨t, ht, hle, hlt, hkind⟩ := h.exists_classified hsorted hplace rfl
  obtain rfl := hcomment t ht hkind hle
  obtain ⟨xs, ys, hjoined⟩ := List.append_of_mem ht
  have halternate := hcovers.partition.alternate
  have hcovered := hcovers.covered
  rw [hjoined] at halternate hcovered hcomment ⊢
  obtain ⟨e, hxs, f, -, -, he, hf, hys⟩ := hcovered.exists_between
  rw [hys.eq_nil (by rw [← hf, Cursor.offset_moveToEnd_start])]
  rw [Token.eq_piece hxs halternate.left_of_append, ← he]
  · rfl
  · intro u hu
    by_contra hkind
    have hlt := hcovers.partition.start_lt_stop u (hjoined ▸ List.mem_append_left _ hu)
    have hle : u.stop ≤ Text.size front := (hxs.stop_le hu).trans_eq he.symm
    have hstart := congrArg Token.start
      (hcomment u (List.mem_append_left _ hu) hkind (hlt.le.trans hle))
    apply absurd (hlt.trans_le hle) (hstart ▸ Nat.lt_irrefl _)

/-- So are the tokens of a line sorted by such rules. -/
theorem SortsComments.commented (h : SortsComments rules)
    (hcovers : Token.Covers line (Token.joined ts))
    (hsorted : Sorted rules (Cursor.start line) ts) (hline : '\n' ∉ line) :
  Commented line (Token.joined ts)
  where
  toEnd _ := h.exists_comment_eq hsorted hline
  noHash _ := h.not_mem_text hcovers hsorted
  whole _ _ := h.tokens_eq hcovers hsorted hline

/-! ### Editors and grammars -/

/-- A comment line is its white space and a comment up to its end. -/
theorem Commented.tokens_eq (h : Commented line ts)
    (hcomment : LanguageConfiguration.hashComments.isCommentLine line) :
  let indent := line.takeWhile Unicode.isSpace
  line.dropWhile Unicode.isSpace ≠ [] ∧
    ts = Token.piece 0 (Text.size indent) .default ++
      [⟨Text.size indent, Text.size line, .comment⟩]
  := by
  intro indent
  obtain ⟨front, rest, hline, hfront⟩ := LanguageConfiguration.isCommentLine_iff.mp hcomment
  have hhash : ¬Unicode.isSpace '#' := by decide
  obtain ⟨hindent, hbehind⟩ := Text.takeWhile_dropWhile_append hfront hhash rest
  rw [← hline] at hindent hbehind
  simp only [indent]
  rw [hindent, hbehind]
  exact ⟨List.cons_ne_nil _ _, h.whole front rest hline hfront⟩

/-- The editor takes those lines for comments that have one behind their white space. -/
theorem Commented.isCommentLine_iff {l : TokenizedLine} (h : Commented line l.tokens) :
  LanguageConfiguration.hashComments.isCommentLine line ↔
    line.dropWhile Unicode.isSpace ≠ [] ∧
      l.kindAt (Text.size (line.takeWhile Unicode.isSpace)) = some .comment
  := by
  constructor
  · intro hcomment
    obtain ⟨hne, htokens⟩ := h.tokens_eq hcomment
    have hlt : Text.size (line.takeWhile Unicode.isSpace) < Text.size line := by
      conv_rhs => rw [← List.takeWhile_append_dropWhile (p := Unicode.isSpace) (l := line)]
      rw [Text.size_append]
      have hpos := mt Text.eq_nil_of_size_eq_zero hne
      omega
    use hne
    rw [TokenizedLine.kindAt, htokens, Token.piece]
    split <;> simp [Token.covers, hlt]
  · rintro ⟨-, hkind⟩
    obtain ⟨t, hfind, hkind⟩ := Option.map_eq_some_iff.mp hkind
    have hcovers := List.find?_some hfind
    simp only [Token.covers, Bool.and_eq_true, decide_eq_true_eq] at hcovers
    obtain ⟨front, rest, hline, rfl⟩ := h.toEnd t (List.mem_of_find?_eq_some hfind) hkind
    have hle : Text.size front ≤ Text.size (line.takeWhile Unicode.isSpace) := hcovers.1
    refine LanguageConfiguration.isCommentLine_iff.mpr ⟨front, rest, hline, ?_⟩
    -- The comment starts no later than behind the white space, so only white space is before it.
    have hlead : front <+: line.takeWhile Unicode.isSpace := by
      have hcut := List.takeWhile_append_dropWhile (p := Unicode.isSpace) (l := line)
      conv_rhs at hcut => rw [hline]
      rcases List.append_eq_append_iff.mp hcut with ⟨u, hfront, -⟩ | ⟨u, hindent, -⟩
      · have hnil : u = [] := by
          apply Text.eq_nil_of_size_eq_zero
          rw [hfront, Text.size_append] at hle
          omega
        rw [hfront, hnil, List.append_nil]
      · exact ⟨u, hindent.symm⟩
    intro x hx
    apply List.mem_takeWhile_imp (hlead.subset hx)

/-! ### The grammars of the registry -/

/-- Scripts never leave their only mode. -/
theorem stateAfter_shell (shell : String) (lookup : String → Option Grammar)
    (lines : List (List Char)) :
  (Shell.grammar shell).stateAfter lookup .root lines = .root
  := by
  induction lines with
  | nil => rfl
  | cons line lines ih =>
    rw [Grammar.stateAfter, List.foldl_cons]
    have hroot : ((Shell.grammar shell).tokenizeLine lookup line .root).endState = .root :=
      Pipeline.endState_shell line
    rw [hroot]
    apply ih

/-- Wherever a document has come to, a line has the tokens of a line that is scanned by one of the
grammars from the root. -/
theorem exists_tokens_eq {pipeline shell : String} {g : Grammar} (hg : g ∈ grammars pipeline shell)
    (lines : List (List Char)) (line : List Char) :
  let lookup := (registry pipeline shell).get?
  ∃ k ∈ grammars pipeline shell,
    (g.tokenizeLine lookup line (g.stateAfter lookup .root lines)).tokens =
      (k.scanLine line .root).tokens
  := by
  intro lookup
  rcases List.mem_pair.mp hg with rfl | rfl
  · rw [stateAfter_shell]
    exact ⟨_, hg, rfl⟩
  · have hstage := Pipeline.stage_stateAfter pipeline shell lines lines.length le_rfl
    rw [List.take_length] at hstage
    have htokens := Pipeline.stage_tokenizeLine hstage line
    simp only at htokens
    split at htokens
    next =>
      refine ⟨Pipeline.scripts pipeline shell, ?_, htokens.tokens⟩
      rw [Pipeline.scripts]
      split
      next => exact hg
      next => exact List.mem_cons_self
    next => exact ⟨_, hg, congrArg TokenizedLine.tokens htokens⟩

/-- In each state that a grammar comes to, the lines are commented as the editor says. -/
theorem commented_tokenizeLine {pipeline shell : String} {g : Grammar}
    (hg : g ∈ grammars pipeline shell) (lines : List (List Char)) (hline : '\n' ∉ line) :
  let lookup := (registry pipeline shell).get?
  Commented line (g.tokenizeLine lookup line (g.stateAfter lookup .root lines)).tokens
  := by
  intro lookup
  obtain ⟨k, hk, htokens⟩ := exists_tokens_eq hg lines line
  have hrules : Rule.Steady k.rootRules ∧ SortsComments k.rootRules := by
    rcases List.mem_pair.mp hk with rfl | rfl
    · exact ⟨steady_shell, sortsComments_shell⟩
    · exact ⟨steady_pipeline, sortsComments_pipeline⟩
  obtain ⟨ts, hsorted, hjoined⟩ := k.exists_sorted hrules.1 lookup line
  have hcovers := (Grammar.tokenizes_tokenizeLine lookup line k .root).covers
  rw [hjoined] at hcovers
  rw [htokens, ← k.tokenizeLine_scanned lookup line rfl, hjoined]
  apply hrules.2.commented hcovers hsorted hline

/-- Editors and grammars agree about comments.  A line that an editor takes for a comment is one:
its first character that is not white space has this kind, and the tokens of the line are the white
space, if there is any, and the comment.  In any line, comments go from a hash character to the end
of the line, and all hash characters are classified. -/
theorem comments_tokenizeLine {pipeline shell : String} {g : Grammar}
    (hg : g ∈ grammars pipeline shell) (lines : List (List Char)) (hline : '\n' ∉ line) :
  let lookup := (registry pipeline shell).get?
  let l := g.tokenizeLine lookup line (g.stateAfter lookup .root lines)
  let isComment := LanguageConfiguration.hashComments.isCommentLine line
  let indent := line.takeWhile Unicode.isSpace
  (isComment ↔
      line.dropWhile Unicode.isSpace ≠ [] ∧ l.kindAt (Text.size indent) = some .comment) ∧
    (isComment → l.tokens = Token.piece 0 (Text.size indent) .default ++
      [⟨Text.size indent, Text.size line, .comment⟩]) ∧
    (∀ t ∈ l.tokens, t.kind = .comment →
      ∃ rest, t.text line = '#' :: rest ∧ t.stop = Text.size line) ∧
    ∀ t ∈ l.tokens, t.kind = .default → '#' ∉ t.text line
  := by
  intro lookup l isComment indent
  have hcommented : Commented line l.tokens := commented_tokenizeLine hg lines hline
  use hcommented.isCommentLine_iff, fun hcomment => (hcommented.tokens_eq hcomment).2
  refine ⟨?_, hcommented.noHash⟩
  intro t ht hkind
  obtain ⟨front, rest, hline, rfl⟩ := hcommented.toEnd t ht hkind
  refine ⟨rest, ?_, rfl⟩
  have hslice := Text.slice?_size front ('#' :: rest) []
  rw [List.append_nil, ← hline, ← Text.size_append, ← hline] at hslice
  rw [Token.text, hslice, Option.getD_some]

theorem comments_nested_scriptBlock :
  let g := Pipeline.grammar "yaml" "yaml"
  let lookup := (registry "yaml" "yaml").get?
  let lines := ["- pwsh:".toList, " - pwsh:".toList]
  let line := "\t # note".toList
  g ∈ grammars "yaml" "yaml" ∧ '\n' ∉ line ∧
    LanguageConfiguration.hashComments.isCommentLine line ∧
    (g.tokenizeLine lookup line (g.stateAfter lookup .root lines)).tokens =
      [⟨0, 2, .default⟩, ⟨2, 8, .comment⟩]
  := by
  intro g lookup lines line
  have hg : g ∈ grammars "yaml" "yaml" := List.mem_cons_of_mem _ List.mem_cons_self
  have hline : '\n' ∉ line := by decide
  have hcomment : LanguageConfiguration.hashComments.isCommentLine line := by decide
  exact ⟨hg, hline, hcomment, (comments_tokenizeLine hg lines hline).2.1 hcomment⟩

end Builtin

end Highlight
