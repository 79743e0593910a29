import Highlight.Proofs.Lines
import Highlight.Proofs.Places
import Highlight.Terminal.Document

/-!
# The list of classified tokens

The list of the classified tokens of a text has a line for each of them, with the number of its
line, its columns, its scope, its grammar and its text.  Where the lines of the text are plain,
nothing of this is lost: the list can be read back, whatever the grammars are called.
-/

namespace Highlight

/-! ### Plain lines -/

namespace Text

/-- The character is on every keyboard: it takes one byte and one cell. -/
def isPlain (c : Char) : Bool :=
  ' ' ≤ c && c ≤ '~'

variable {line front back : List Char} {c : Char} {n : Nat}

theorem isPlain_iff :
  isPlain c ↔ ' ' ≤ c ∧ c ≤ '~'
  := by rw [isPlain, Bool.and_eq_true_iff, decide_eq_true_iff, decide_eq_true_iff]

/-- A plain text has as many bytes as characters. -/
theorem size_of_isPlain (h : ∀ c ∈ line, isPlain c) :
  size line = line.length
  := by
  induction line with
  | nil => rfl
  | cons c line ih =>
    obtain ⟨hc, hline⟩ := List.forall_mem_cons.mp h
    have hsize : c.utf8Size = 1 :=
      Char.utf8Size_eq_one_iff.mpr (UInt32.le_trans (isPlain_iff.mp hc).2 (by decide))
    rw [size_cons, hsize, ih hline, List.length_cons, Nat.add_comm]

/-- A plain text has as many columns as characters. -/
theorem width_of_isPlain (h : ∀ c ∈ line, isPlain c) :
  width line = line.length
  := by
  have hmeasure : measure line = ((line.length : Int), {}) := by
    induction line with
    | nil => rfl
    | cons c line ih =>
      obtain ⟨hc, hline⟩ := List.forall_mem_cons.mp h
      have hplace : place c {} = (1, {}) :=
        if_pos (Char.le_trans (isPlain_iff.mp hc).2 (by decide))
      rw [measure, List.foldr_cons, ← measure, ih hline, List.length_cons]
      simp only [hplace, Int.natCast_succ]
  rw [width, hmeasure]
  rfl

/-- A plain line can be cut at any offset. -/
theorem cut_of_isPlain (h : ∀ c ∈ line, isPlain c) (hn : n ≤ size line) :
  ∃ front back, line = front ++ back ∧ size front = n ∧ front.length = n
  := by
  rw [size_of_isPlain h] at hn
  have hlength : (line.take n).length = n := by rw [List.length_take, Nat.min_eq_left hn]
  refine ⟨line.take n, line.drop n, (List.take_append_drop n line).symm, ?_, hlength⟩
  rw [size_of_isPlain fun c hc => h c (List.mem_of_mem_take hc), hlength]

/-- A plain text is quoted within a line. -/
theorem newline_not_mem_quoted (h : ∀ c ∈ line, isPlain c) :
  '\n' ∉ quoted line
  := by
  have hplain : ∀ k : Fin 95, '\n' ∉ quotedChar (Char.ofNat (k + 32)) := by decide +kernel
  rw [quoted]
  simp only [List.mem_cons, List.mem_append, List.mem_flatMap, List.not_mem_nil, or_false]
  rintro (hquote | ⟨c, hc, hmem⟩ | hquote)
  · cases hquote
  · obtain ⟨hlower, hupper⟩ := isPlain_iff.mp (h c hc)
    replace hlower : 32 ≤ c.toNat := UInt32.le_iff_toNat_le.mp hlower
    replace hupper : c.toNat ≤ 126 := UInt32.le_iff_toNat_le.mp hupper
    apply hplain ⟨c.toNat - 32, by omega⟩
    rw [Nat.sub_add_cancel hlower, Char.ofNat_toNat]
    apply hmem
  · cases hquote

/-! ### Reading back -/

/-- What stands in front of a mark that is not in it can be told from what stands behind it. -/
theorem append_cons_inj {front' back' : List Char} (hfront : c ∉ front) (hfront' : c ∉ front')
    (h : front ++ c :: back = front' ++ c :: back') :
  front = front' ∧ back = back'
  := by
  have hne : ∀ {front : List Char}, c ∉ front → ∀ x ∈ front, (x != c) = true := by
    intro front hfront x hx
    apply bne_iff_ne.mpr
    rintro rfl
    apply hfront hx
  have hc : ¬(c != c) = true := by simp
  obtain ⟨htake, hdrop⟩ := takeWhile_dropWhile_append (hne hfront) hc back
  obtain ⟨htake', hdrop'⟩ := takeWhile_dropWhile_append (hne hfront') hc back'
  rw [h] at htake hdrop
  rw [htake] at htake'
  rw [hdrop] at hdrop'
  exact ⟨htake', (List.cons.inj hdrop').2⟩

/-- The number in decimal digits. -/
theorem toString_inj {m n : Nat} (h : (toString m).toList = (toString n).toList) :
  m = n
  := by
  have hdigits : Nat.toDigits 10 m = Nat.toDigits 10 n := by
    simpa [Nat.toString_eq_repr] using h
  rw [← Nat.ofDigitChars_ten_toDigits (n := m), hdigits, Nat.ofDigitChars_ten_toDigits]

/-- A number is written with digits only. -/
theorem not_mem_toString (hc : c.isDigit = false) (n : Nat) :
  c ∉ (toString n).toList
  := by
  intro hmem
  have hdigit : c.isDigit := by
    apply Nat.isDigit_of_mem_toDigits (b := 10) (n := n) (by decide) (by decide)
    simpa [Nat.toString_eq_repr] using hmem
  rw [hc] at hdigit
  cases hdigit

end Text

/-- A kind is known by its scope. -/
theorem TokenKind.ofName?_scope {k : TokenKind} (hk : k ≠ .default) :
  ofName? k.scope = some k
  := by
  cases k <;> first | rfl | contradiction

/-- A scope is written without spaces and within a line. -/
theorem TokenKind.not_mem_scope (k : TokenKind) :
  ' ' ∉ k.scope.toList ∧ '\n' ∉ k.scope.toList
  := by cases k <;> decide

namespace Terminal

open Text

/-! ### Entries -/

/-- The classified tokens of a line. -/
def classified (l : TokenizedLine) : List Token :=
  l.tokens.filter (·.kind != .default)

/-- A classified token with its line and the number and the grammar of the line. -/
structure Row where
  number : Nat
  line : List Char
  grammar : String
  token : Token

/-- The rows of a line. -/
def rowsOf (number : Nat) (line : List Char) (l : TokenizedLine) : List Row :=
  (classified l).map (⟨number, line, l.grammar, ·⟩)

/-- The rows of lines, of which the first has the given number. -/
def rowsFrom (number : Nat) : List (List Char × TokenizedLine) → List Row
  | [] => []
  | (line, l) :: ps => rowsOf number line l ++ rowsFrom (number + 1) ps

/-- The rows of a text, in order.  They end with the lines of the text or with the tokenized lines,
whichever end first. -/
def rows (text : String) (ls : List TokenizedLine) : List Row :=
  rowsFrom 1 ((Text.lines text).zip ls)

namespace Row

/-- What is written of a row where the lines are plain. -/
def entry (r : Row) : List Char :=
  (toString r.number).toList ++ ':' :: ((toString (r.token.start + 1)).toList ++
    '-' :: ((toString (r.token.stop + 1)).toList ++ ' ' :: (r.token.kind.scope.toList ++
      ' ' :: (r.grammar.toList ++ ' ' :: quoted (r.token.text r.line)))))

/-- The line is plain and the token is a piece of it; the name of the grammar is written in one
line. -/
structure Fits (r : Row) : Prop where
  plain : ∀ c ∈ r.line, isPlain c
  kind : r.token.kind ≠ .default
  start_le_stop : r.token.start ≤ r.token.stop
  stop_le : r.token.stop ≤ size r.line
  grammar : '\n' ∉ r.grammar.toList

variable {r s : Row}

/-- The text of the token takes as many cells as there are offsets between its ends. -/
theorem Fits.exists_cut (h : r.Fits) :
  ∃ front back, r.line = front ++ (r.token.text r.line ++ back) ∧
    size front = r.token.start ∧ width front = r.token.start ∧
    width (r.token.text r.line) = r.token.stop - r.token.start
  := by
  obtain ⟨front, rest, hline, hsize, hlength⟩ :=
    cut_of_isPlain h.plain (h.start_le_stop.trans h.stop_le)
  have hplain := h.plain
  rw [hline, List.forall_mem_append] at hplain
  have hrest : r.token.stop - r.token.start ≤ size rest := by
    have hle := h.stop_le
    rw [hline, size_append] at hle
    omega
  obtain ⟨piece, back, hpiece, hsize', hlength'⟩ := cut_of_isPlain hplain.2 hrest
  have htext : r.token.text r.line = piece := by
    have hstop : r.token.stop = size front + size piece := by
      have := h.start_le_stop
      omega
    rw [Token.text, hstop, ← hsize, hline, hpiece, slice?_size, Option.getD_some]
  rw [hpiece, List.forall_mem_append] at hplain
  refine ⟨front, back, ?_, hsize, ?_, ?_⟩
  · rw [htext, ← hpiece, hline]
  · rw [width_of_isPlain hplain.1, hlength]
  · rw [htext, width_of_isPlain hplain.2.1, hlength']

/-- The entry of a row that fits is written as a line. -/
theorem Fits.tokenEntry_eq (h : r.Fits) :
  tokenEntry r.number r.grammar r.line r.token = r.entry ++ ['\n']
  := by
  obtain ⟨front, back, hline, hsize, hwidth, hwidth'⟩ := h.exists_cut
  have htake : takeTo? r.token.start r.line = some front := by
    rw [← hsize]
    conv_lhs => rw [hline]
    apply takeTo?_size
  have hstart : startColumn r.line r.token = r.token.start + 1 := by
    rw [startColumn, htake, Option.getD_some, hwidth]
  have hstop : r.token.start + 1 + width (r.token.text r.line) = r.token.stop + 1 := by
    have := h.start_le_stop
    omega
  simp [tokenEntry, entry, hstart, hstop]

theorem Fits.newline_not_mem_entry (h : r.Fits) :
  '\n' ∉ r.entry
  := by
  obtain ⟨front, back, hline, -⟩ := h.exists_cut
  have htext : ∀ c ∈ r.token.text r.line, isPlain c := by
    intro c hc
    apply h.plain
    rw [hline]
    simp [hc]
  have hdigits := not_mem_toString (c := '\n') (by decide)
  have hscope := r.token.kind.not_mem_scope.2
  have hgrammar := h.grammar
  have hquoted := newline_not_mem_quoted htext
  simp only [entry, List.mem_append, List.mem_cons, not_or]
  exact ⟨hdigits _, by decide, hdigits _, by decide, hdigits _, by decide, hscope, by decide,
    hgrammar, by decide, hquoted⟩

theorem getLast?_entry (r : Row) :
  r.entry.getLast? = some '"'
  := by simp [entry, quoted, List.getLast?_append, List.getLast?_cons]

/-- A row is known by its entry, if its line is known by its number.  The name of the grammar is
what is left when the marks in front of it are read and the text behind it is taken away. -/
theorem Fits.eq_of_entry_eq (hr : r.Fits) (hs : s.Fits)
    (hline : r.number = s.number → r.line = s.line) (h : r.entry = s.entry) :
  r = s
  := by
  obtain ⟨number, line, grammar, start, stop, kind⟩ := r
  obtain ⟨number', line', grammar', start', stop', kind'⟩ := s
  have hcolon := not_mem_toString (c := ':') (by decide)
  have hhyphen := not_mem_toString (c := '-') (by decide)
  have hspace := not_mem_toString (c := ' ') (by decide)
  have hscope := fun k => (TokenKind.not_mem_scope k).1
  obtain ⟨hnumber, h⟩ := append_cons_inj (hcolon _) (hcolon _) h
  obtain ⟨hstart, h⟩ := append_cons_inj (hhyphen _) (hhyphen _) h
  obtain ⟨hstop, h⟩ := append_cons_inj (hspace _) (hspace _) h
  obtain ⟨hscope, h⟩ := append_cons_inj (hscope _) (hscope _) h
  obtain rfl : number = number' := toString_inj hnumber
  obtain rfl : line = line' := hline rfl
  obtain rfl : start = start' := Nat.succ.inj (toString_inj hstart)
  obtain rfl : stop = stop' := Nat.succ.inj (toString_inj hstop)
  obtain rfl : kind = kind' := by
    have hofName := TokenKind.ofName?_scope hr.kind
    rw [String.toList_inj.mp hscope, TokenKind.ofName?_scope hs.kind] at hofName
    apply (Option.some.inj hofName).symm
  obtain rfl : grammar = grammar' := String.toList_inj.mp (List.append_cancel_right h)
  rfl

end Row

/-! ### The rows of lines -/

section

variable {number : Nat} {line : List Char} {l : TokenizedLine}
  {ps : List (List Char × TokenizedLine)} {r : Row}

theorem number_of_mem_rowsOf (hr : r ∈ rowsOf number line l) :
  r.number = number
  := by
  obtain ⟨t, -, rfl⟩ := List.mem_map.mp hr
  rfl

/-- A row is that of one of the lines, with its number. -/
theorem exists_of_mem_rowsFrom (hr : r ∈ rowsFrom number ps) :
  ∃ i line l, ps[i]? = some (line, l) ∧ r ∈ rowsOf (number + i) line l
  := by
  induction ps generalizing number with
  | nil => cases hr
  | cons p ps ih =>
    rcases List.mem_append.mp hr with hr | hr
    · exact ⟨0, p.1, p.2, rfl, hr⟩
    · obtain ⟨i, line, l, hi, hr⟩ := ih hr
      rw [Nat.succ_add_eq_add_succ] at hr
      exact ⟨i + 1, line, l, hi, hr⟩

/-- The entries are those of the rows. -/
theorem entriesFrom_eq (number : Nat) (ps : List (List Char × TokenizedLine)) :
  entriesFrom number ps =
    (rowsFrom number ps).flatMap fun r => tokenEntry r.number r.grammar r.line r.token
  := by
  induction ps generalizing number with
  | nil => rfl
  | cons p ps ih =>
    have hline : lineEntries number p.1 p.2 = (rowsOf number p.1 p.2).flatMap fun r =>
        tokenEntry r.number r.grammar r.line r.token := by
      rw [rowsOf, List.flatMap_map]
      rfl
    rw [entriesFrom, rowsFrom, ih, hline, List.flatMap_append]

/-- The rows have the classified tokens of the lines in order. -/
theorem map_token_rowsFrom (number : Nat) (ps : List (List Char × TokenizedLine)) :
  (rowsFrom number ps).map Row.token = ps.flatMap fun p => classified p.2
  := by
  induction ps generalizing number with
  | nil => rfl
  | cons p ps ih =>
    have hline : (rowsOf number p.1 p.2).map Row.token = classified p.2 := by
      rw [rowsOf, List.map_map]
      apply List.map_id
    rw [rowsFrom, List.map_append, ih, hline, List.flatMap_cons]

/-- The rows with a number are those of one line. -/
theorem filter_rowsFrom (number i : Nat) (ps : List (List Char × TokenizedLine)) :
  (rowsFrom number ps).filter (·.number == number + i) =
    ps[i]?.elim [] fun p => rowsOf (number + i) p.1 p.2
  := by
  induction ps generalizing number i with
  | nil => rfl
  | cons p ps ih =>
    rw [rowsFrom, List.filter_append]
    cases i with
    | zero =>
      have hline : (rowsOf number p.1 p.2).filter (·.number == number) = rowsOf number p.1 p.2 := by
        apply List.filter_eq_self.mpr
        intro r hr
        rw [number_of_mem_rowsOf hr, beq_self_eq_true]
      have hbehind : (rowsFrom (number + 1) ps).filter (·.number == number) = [] := by
        apply List.filter_eq_nil_iff.mpr
        intro r hr hnumber
        obtain ⟨i, line, l, -, hr⟩ := exists_of_mem_rowsFrom hr
        have := number_of_mem_rowsOf hr
        have := eq_of_beq hnumber
        omega
      rw [Nat.add_zero, hline, hbehind, List.append_nil]
      rfl
    | succ i =>
      have hline : (rowsOf number p.1 p.2).filter (·.number == number + (i + 1)) = [] := by
        apply List.filter_eq_nil_iff.mpr
        intro r hr hnumber
        have := number_of_mem_rowsOf hr
        have := eq_of_beq hnumber
        omega
      rw [hline, List.nil_append, ← Nat.succ_add_eq_add_succ, ih, List.getElem?_cons_succ]

end

/-! ### Lists -/

/-- The tokenized lines suit the text: each token is a piece of its line, and the names of the
grammars are written in one line. -/
structure Suits (text : String) (ls : List TokenizedLine) : Prop where
  grammar : ∀ l ∈ ls, '\n' ∉ l.grammar.toList
  token : ∀ (i : Nat) (l : TokenizedLine), ls[i]? = some l → ∀ t ∈ l.tokens,
    ∃ line, (Text.lines text)[i]? = some line ∧ t.start ≤ t.stop ∧ t.stop ≤ size line

/-- The classified tokens of the line with index `i`, none if there is no such line. -/
def classifiedAt (ls : List TokenizedLine) (i : Nat) : List Token :=
  ls[i]?.elim [] classified

variable {text : String} {ls ls' : List TokenizedLine} {r s : Row}

/-- A tokenized line behind the end of the text has no tokens. -/
theorem Suits.classified_eq_nil {i : Nat} {l : TokenizedLine} (h : Suits text ls)
    (hl : ls[i]? = some l) (hline : (Text.lines text)[i]? = none) :
  classified l = []
  := by
  apply List.filter_eq_nil_iff.mpr
  intro t ht
  obtain ⟨line, hline', -⟩ := h.token i l hl t ht
  rw [hline] at hline'
  cases hline'

/-- A row has the number, the text and the grammar of its line. -/
theorem exists_of_mem_rows (hr : r ∈ rows text ls) :
  ∃ i l, r.number = i + 1 ∧ (Text.lines text)[i]? = some r.line ∧ ls[i]? = some l ∧
    r.grammar = l.grammar ∧ r.token ∈ classified l
  := by
  obtain ⟨i, line, l, hi, hr⟩ := exists_of_mem_rowsFrom hr
  obtain ⟨t, ht, rfl⟩ := List.mem_map.mp hr
  obtain ⟨hline, hl⟩ := List.getElem?_zip_eq_some.mp hi
  exact ⟨i, l, Nat.add_comm 1 i, hline, hl, rfl, ht⟩

/-- If all lines are plain, all rows fit. -/
theorem fits_of_mem_rows (hplain : ∀ line ∈ Text.lines text, ∀ c ∈ line, isPlain c)
    (h : Suits text ls) (hr : r ∈ rows text ls) :
  r.Fits
  := by
  obtain ⟨i, l, -, hline, hl, hgrammar, ht⟩ := exists_of_mem_rows hr
  obtain ⟨hmem, hkind⟩ := List.mem_filter.mp ht
  obtain ⟨line, hline', hle, hstop⟩ := h.token i l hl r.token hmem
  rw [hline] at hline'
  cases hline'
  refine ⟨hplain _ (List.mem_of_getElem? hline), bne_iff_ne.mp hkind, hle, hstop, ?_⟩
  rw [hgrammar]
  apply h.grammar l (List.mem_of_getElem? hl)

/-- The list has one line for each row. -/
theorem dump_eq (h : ∀ r ∈ rows text ls, r.Fits) :
  dump text ls = unlines ((rows text ls).map Row.entry)
  := by
  rw [dump, entriesFrom_eq, unlines, List.flatMap_map]
  apply List.flatMap_congr
  intro r hr
  apply (h r hr).tokenEntry_eq

/-- The lines of the output are the entries of the rows. -/
theorem lines_dump (h : ∀ r ∈ rows text ls, r.Fits) :
  Text.lines (String.ofList (dump text ls)) = (rows text ls).map Row.entry
  := by
  rw [dump_eq h, Text.lines, String.toList_ofList]
  apply linesFrom_unlines
  intro entry hentry
  obtain ⟨r, hr, rfl⟩ := List.mem_map.mp hentry
  refine ⟨(h r hr).newline_not_mem_entry, ?_⟩
  rw [r.getLast?_entry]
  decide

/-- The rows of the line with index `i`. -/
theorem filter_rows (h : Suits text ls) (i : Nat) :
  (rows text ls).filter (·.number == i + 1) = (classifiedAt ls i).map
    (⟨i + 1, (Text.lines text).getD i [], (ls[i]?.map (·.grammar)).getD "", ·⟩)
  := by
  rw [rows, Nat.add_comm, filter_rowsFrom, classifiedAt]
  rcases hl : ls[i]? with _ | l
  · rw [List.zip, List.getElem?_zipWith, hl]
    cases (Text.lines text)[i]? <;> rfl
  rcases hline : (Text.lines text)[i]? with _ | line
  · rw [List.zip, List.getElem?_zipWith, hline, Option.elim_some, h.classified_eq_nil hl hline]
    rfl
  · rw [List.zip, List.getElem?_zipWith, hline, hl, List.getD_eq_getElem?_getD, hline]
    rfl

/-- Nothing is lost with the end of the first list where nothing comes of the rest of the second. -/
theorem flatMap_zip_snd {α β γ : Type} {f : β → List γ} {as : List α} {bs : List β}
    (h : ∀ (i : Nat) (b : β), bs[i]? = some b → as.length ≤ i → f b = []) :
  ((as.zip bs).flatMap fun p => f p.2) = bs.flatMap f
  := by
  induction bs generalizing as with
  | nil => rw [List.zip_nil_right, List.flatMap_nil, List.flatMap_nil]
  | cons b bs ih =>
    cases as with
    | nil =>
      refine (List.flatMap_eq_nil_iff.mpr fun b hb => ?_).symm
      obtain ⟨i, hi⟩ := List.getElem?_of_mem hb
      apply h i b hi (Nat.zero_le i)
    | cons a as =>
      rw [List.zip_cons_cons, List.flatMap_cons, List.flatMap_cons, ih]
      intro i b hi hle
      apply h (i + 1) b hi (Nat.succ_le_succ hle)

/-- The rows are those of all the classified tokens, in order. -/
theorem map_token_rows (h : Suits text ls) :
  (rows text ls).map Row.token = ls.flatMap classified
  := by
  rw [rows, map_token_rowsFrom]
  apply flatMap_zip_snd
  intro i l hl hle
  apply h.classified_eq_nil hl (List.getElem?_eq_none hle)

/-- The rows can be read back from their entries. -/
theorem rows_inj (hplain : ∀ line ∈ Text.lines text, ∀ c ∈ line, isPlain c)
    (h : Suits text ls) (h' : Suits text ls')
    (heq : (rows text ls).map Row.entry = (rows text ls').map Row.entry) :
  rows text ls = rows text ls'
  := by
  have hpair : ∀ r ∈ rows text ls, ∀ s ∈ rows text ls', r.entry = s.entry → r = s := by
    intro r hr s hs
    apply (fits_of_mem_rows hplain h hr).eq_of_entry_eq (fits_of_mem_rows hplain h' hs)
    intro hnumber
    obtain ⟨i, -, hi, hline, -⟩ := exists_of_mem_rows hr
    obtain ⟨j, -, hj, hline', -⟩ := exists_of_mem_rows hs
    obtain rfl : i = j := by omega
    rw [hline] at hline'
    apply Option.some.inj hline'
  have hlength : (rows text ls).length = (rows text ls').length := by
    rw [← List.length_map Row.entry, heq, List.length_map]
  apply List.ext_getElem hlength
  intro i hi hi'
  apply hpair _ (List.getElem_mem hi) _ (List.getElem_mem hi')
  simpa [hi, hi'] using congrArg (·[i]?) heq

theorem exists_of_mem_classifiedAt {i : Nat} {t : Token} (ht : t ∈ classifiedAt ls i) :
  ∃ l, ls[i]? = some l
  := by
  cases hl : ls[i]? with
  | none =>
    rw [classifiedAt, hl] at ht
    cases ht
  | some l => exact ⟨l, rfl⟩

/-- The list of the classified tokens has one line for each of them, in order, with the number of
its line and its columns, counted from one.  Two lists for the same text are equal only if the
classified tokens are, and the grammars of the lines that have any. -/
theorem dump_inj (hplain : ∀ line ∈ Text.lines text, ∀ c ∈ line, isPlain c)
    (h : Suits text ls) (h' : Suits text ls') :
  (dump text ls = unlines ((rows text ls).map Row.entry) ∧
    Text.lines (String.ofList (dump text ls)) = (rows text ls).map Row.entry ∧
    (rows text ls).map Row.token = ls.flatMap classified) ∧
  (dump text ls = dump text ls' → ∀ i, classifiedAt ls i = classifiedAt ls' i ∧
    (classifiedAt ls i ≠ [] → ls[i]?.map (·.grammar) = ls'[i]?.map (·.grammar)))
  := by
  have hfits := fun r => fits_of_mem_rows (r := r) hplain h
  have hfits' := fun r => fits_of_mem_rows (r := r) hplain h'
  refine ⟨⟨dump_eq hfits, lines_dump hfits, map_token_rows h⟩, ?_⟩
  intro heq i
  have hrows : rows text ls = rows text ls' := by
    apply rows_inj hplain h h'
    rw [← lines_dump hfits, heq, lines_dump hfits']
  have hline := filter_rows h i
  rw [hrows, filter_rows h' i] at hline
  have htokens : classifiedAt ls i = classifiedAt ls' i := by
    simpa [Function.comp_def] using (congrArg (List.map Row.token) hline).symm
  refine ⟨htokens, ?_⟩
  intro hne
  obtain ⟨t, ht⟩ := List.exists_mem_of_ne_nil _ hne
  obtain ⟨l, hl⟩ := exists_of_mem_classifiedAt ht
  obtain ⟨l', hl'⟩ := exists_of_mem_classifiedAt (htokens ▸ ht)
  rw [htokens, List.map_inj_left] at hline
  have hgrammar := congrArg Row.grammar (hline t (htokens ▸ ht))
  simp only [hl, hl', Option.map_some, Option.getD_some] at hgrammar ⊢
  rw [hgrammar]

theorem dump_inj_spaced_grammar :
  let text := "x: 1\n\n# \"a"
  let tokens : List Token := [⟨0, 1, .keyword⟩, ⟨1, 3, .default⟩, ⟨3, 4, .number⟩]
  let rest : List TokenizedLine := [⟨"b", [], .root⟩, ⟨"c", [⟨0, 4, .comment⟩], .root⟩]
  let ls := ⟨"a \"1\"", tokens, .root⟩ :: rest
  let ls' := ⟨"a", tokens, .root⟩ :: rest
  Suits text ls ∧ Suits text ls' ∧ (rows text ls).map Row.token = ls.flatMap classified ∧
    dump text ls ≠ dump text ls'
  := by
  intro text tokens rest ls ls'
  have hplain : ∀ line ∈ Text.lines text, ∀ c ∈ line, isPlain c := by
    have hall : (Text.lines text).all (·.all isPlain) := by decide
    simpa only [List.all_eq_true] using hall
  have hsuits : ∀ grammar : String, '\n' ∉ grammar.toList →
      Suits text (⟨grammar, tokens, .root⟩ :: rest) := by
    intro grammar hgrammar
    refine ⟨?_, ?_⟩
    · simp only [rest, List.forall_mem_cons]
      exact ⟨hgrammar, by decide, by decide, nofun⟩
    · have htokens : ∀ t ∈ tokens, t.start ≤ t.stop ∧ t.stop ≤ 4 := by decide
      rintro (_ | _ | _ | i) l hl t ht
      · cases hl
        exact ⟨"x: 1".toList, by decide, htokens t ht⟩
      · cases hl
        cases ht
      · cases hl
        obtain rfl := List.mem_singleton.mp ht
        exact ⟨"# \"a".toList, by decide, by decide, by decide⟩
      · cases hl
  have h := hsuits "a \"1\"" (by decide)
  have h' := hsuits "a" (by decide)
  obtain ⟨⟨-, -, htokens⟩, hinj⟩ := dump_inj hplain h h'
  refine ⟨h, h', htokens, ?_⟩
  intro heq
  have hgrammar := (hinj heq 0).2 (by decide)
  revert hgrammar
  decide

end Terminal

end Highlight
