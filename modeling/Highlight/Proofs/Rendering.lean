import Highlight.Proofs.Document
import Highlight.Proofs.Lines
import Highlight.Proofs.Partition
import Highlight.Proofs.Screen
import Highlight.Terminal.Document

/-!
# Colors change nothing but the style

A tokenized text without escape characters is shown by a terminal as it is, each token in the
style of its kind.  Without the sequences that set the styles, its output is the text.
-/

namespace Highlight

/-! ### Themes -/

theorem lookup_eq_find? {α β : Type} [BEq α] (k : α) (l : List (α × β)) :
  l.lookup k = (l.find? (k == ·.1)).map (·.2)
  := by
  induction l with
  | nil => rfl
  | cons e l ih =>
    rw [List.lookup_cons, List.find?_cons]
    cases k == e.1 with
    | true => rfl
    | false => apply ih

/-- The last color for a kind replaces the color of its default style. -/
theorem Theme.style_ofColors (colors : List (TokenKind × Color)) (k : TokenKind) :
  (Theme.ofColors colors).style k =
    match (colors.filter (k == ·.1)).getLast? with
    | some (_, c) => k.defaultStyle.withColor c
    | none => k.defaultStyle
  := by
  have hlast : colors.reverse.lookup k =
      ((colors.filter (k == ·.1)).getLast?).map (·.2) := by
    rw [lookup_eq_find?, ← List.head?_filter, List.filter_reverse, List.head?_reverse]
  rw [style, ofColors, hlast]
  cases (colors.filter (k == ·.1)).getLast? <;> rfl

/-! ### Tokenized lines -/

namespace Grammar

variable {g : Grammar} {lookup : String → Option Grammar}

/-- The tokens of a line cover it. -/
theorem covers_tokenizeLine (g : Grammar) (lookup : String → Option Grammar) (line : List Char)
    (s : LineState) :
  Token.Covers line (g.tokenizeLine lookup line s).tokens
  := (tokenizes_tokenizeLine lookup line g s).covers

theorem covers_of_mem_zip {s : LineState} {lines : List (List Char)}
    {p : List Char × TokenizedLine} (hp : p ∈ lines.zip (g.tokenizeLines lookup s lines)) :
  Token.Covers p.1 p.2.tokens
  := by
  induction lines generalizing s with
  | nil => cases hp
  | cons line lines ih =>
    rw [tokenizeLines, List.zip_cons_cons] at hp
    obtain rfl | hp := List.mem_cons.mp hp
    · apply covers_tokenizeLine
    · apply ih hp

end Grammar

/-- The text of a token is a part of the line. -/
theorem Token.Covers.mem_of_mem_text {line : List Char} {ts : List Token} {t : Token} {c : Char}
    (h : Covers line ts) (ht : t ∈ ts) (hc : c ∈ t.text line) :
  c ∈ line
  := by
  rw [← h.text]
  apply List.mem_flatMap.mpr
  use t, ht, hc

namespace Terminal

/-! ### Lines on a terminal -/

/-- A line as it should be shown: each token in the style of its kind, and a plain newline. -/
def shownLine (theme : Theme) (line : List Char) (l : TokenizedLine) : List (Char × Style) :=
  l.tokens.flatMap (fun t => (t.text line).map (·, theme.style t.kind)) ++ [('\n', .plain)]

variable {theme : Theme} {line : List Char} {l : TokenizedLine}

/-- A line is shown with all its characters, and a newline. -/
theorem map_fst_shownLine (h : Token.Covers line l.tokens) :
  (shownLine theme line l).map Prod.fst = line ++ ['\n']
  := by
  have htokens : (l.tokens.flatMap fun t => (t.text line).map (·, theme.style t.kind)).map Prod.fst
      = line := by
    rw [List.map_flatMap]
    simp only [List.map_map, Function.comp_def, List.map_id']
    apply h.text
  rw [shownLine, List.map_append, htokens]
  rfl

/-- Tokens are shown in the styles of their kinds. -/
theorem shown_tokens {ts : List Token} (h : ∀ t ∈ ts, '\x1b' ∉ t.text line) (output : List Char) :
  shown (ts.flatMap (fun t => styled (theme.style t.kind) (t.text line)) ++ output) =
    ts.flatMap (fun t => (t.text line).map (·, theme.style t.kind)) ++ shown output
  := by
  induction ts with
  | nil => rfl
  | cons t ts ih =>
    obtain ⟨ht, hts⟩ := List.forall_mem_cons.mp h
    rw [List.flatMap_cons, List.append_assoc, shown_styled ht, ih hts, List.flatMap_cons,
      List.append_assoc]

/-- A rendered line is shown as its tokens. -/
theorem shown_renderLine (h : ∀ t ∈ l.tokens, '\x1b' ∉ t.text line) (output : List Char) :
  shown (renderLine theme line l ++ output) = shownLine theme line l ++ shown output
  := by
  have hnewline : '\x1b' ∉ ['\n'] := by decide
  rw [renderLine, List.append_assoc, shown_tokens h, shown_append hnewline, shownLine,
    List.append_assoc]
  rfl

/-- Rendered lines are shown one after another. -/
theorem shown_renderLines {ps : List (List Char × TokenizedLine)}
    (h : ∀ p ∈ ps, ∀ t ∈ p.2.tokens, '\x1b' ∉ t.text p.1) :
  shown (ps.flatMap fun (line, l) => renderLine theme line l) =
    ps.flatMap fun (line, l) => shownLine theme line l
  := by
  induction ps with
  | nil => rfl
  | cons p ps ih =>
    obtain ⟨hp, hps⟩ := List.forall_mem_cons.mp h
    rw [List.flatMap_cons, shown_renderLine hp, ih hps, List.flatMap_cons]

/-! ### Documents on a terminal -/

/-- Without a theme the lines are shown as they are. -/
theorem renderDocument_none {text : String} {ls : List TokenizedLine}
    (h : ls.length = (Text.lines text).length) :
  renderDocument none text ls = Text.unlines (Text.lines text)
  := by
  have hlines : ((Text.lines text).zip ls).map Prod.fst = Text.lines text :=
    List.map_fst_zip h.ge
  calc renderDocument none text ls
      = ((Text.lines text).zip ls).flatMap fun p => p.1 ++ ['\n'] := rfl
    _ = Text.unlines (((Text.lines text).zip ls).map Prod.fst) := by
        rw [Text.unlines, List.flatMap_map]
    _ = Text.unlines (Text.lines text) := by rw [hlines]

variable {g : Grammar} {lookup : String → Option Grammar} {text : String}

/-- What a terminal shows of a document that is tokenized from the root on. -/
theorem shown_renderDocument (htext : '\x1b' ∉ text.toList) (theme : Theme) :
  let ls := g.tokenizeLines lookup .root (Text.lines text)
  shown (renderDocument (some theme) text ls) =
    ((Text.lines text).zip ls).flatMap fun (line, l) => shownLine theme line l
  := by
  intro ls
  apply shown_renderLines
  intro p hp t ht hc
  have hcovers := Grammar.covers_of_mem_zip hp
  apply htext
  apply Text.mem_of_mem_lines (List.of_mem_zip hp).1 (hcovers.mem_of_mem_text ht hc)

/-- The sequences are all that the styles add. -/
theorem strip_renderDocument (htext : '\x1b' ∉ text.toList) (theme : Theme) :
  let ls := g.tokenizeLines lookup .root (Text.lines text)
  strip (renderDocument (some theme) text ls) = renderDocument none text ls
  := by
  intro ls
  rw [← map_fst_shown, shown_renderDocument htext, List.map_flatMap]
  apply List.flatMap_congr
  intro p hp
  apply map_fst_shownLine (Grammar.covers_of_mem_zip hp)

/-- A document is shown as its text, in the colors or without any. -/
theorem renderDocument_tokenizeDocument {r : Registry} {id : String} (hid : r.contains id)
    (htext : '\x1b' ∉ text.toList) (colors : List (TokenKind × Color)) :
  ∃ ls, r.tokenizeDocument id text = .ok ls ∧
    (renderDocument none text ls = Text.unlines (Text.lines text) ∧
      (¬['\r', '\n'] <:+: text.toList →
        renderDocument none text ls =
          if Text.IsClosed text.toList then text.toList else text.toList ++ ['\n'])) ∧
    strip (renderDocument (some (.ofColors colors)) text ls) = renderDocument none text ls ∧
    (shown (renderDocument (some (.ofColors colors)) text ls) =
        ((Text.lines text).zip ls).flatMap fun (line, l) => shownLine (.ofColors colors) line l) ∧
    (∀ p ∈ (Text.lines text).zip ls, p.2.tokens.flatMap (·.text p.1) = p.1) ∧
    ∀ k, (Theme.ofColors colors).style k =
      match (colors.filter (k == ·.1)).getLast? with
      | some (_, c) => k.defaultStyle.withColor c
      | none => k.defaultStyle
  := by
  obtain ⟨g, hg⟩ := Option.isSome_iff_exists.mp hid
  have hplain := renderDocument_none (g.length_tokenizeLines r.get? .root (Text.lines text))
  refine ⟨_, Registry.tokenizeDocument_eq hg text, ⟨hplain, ?_⟩, strip_renderDocument htext _,
    shown_renderDocument htext _, ?_, Theme.style_ofColors colors⟩
  · intro hreturn
    rw [hplain, Text.unlines_lines hreturn]
  · intro p hp
    apply (Grammar.covers_of_mem_zip hp).text

/-- A bold letter that the last of two colors shows in red, and one that no rule classifies. -/
theorem renderDocument_tokenizeDocument_red :
  let a : Rule := { name := "a", pattern := .ofForm (.char 'a'), kind := .keyword }
  let r : Registry := ⟨[{ id := "letters", rootRules := [a] }], []⟩
  let colors : List (TokenKind × Color) := [(.keyword, .default), (.keyword, .red)]
  r.contains "letters" ∧ '\x1b' ∉ "ab".toList ∧ ¬['\r', '\n'] <:+: "ab".toList ∧
    ∃ ls, r.tokenizeDocument "letters" "ab" = .ok ls ∧
      renderDocument none "ab" ls = ['a', 'b', '\n'] ∧
      strip (renderDocument (some (.ofColors colors)) "ab" ls) = ['a', 'b', '\n'] ∧
      shown (renderDocument (some (.ofColors colors)) "ab" ls) =
        [('a', { color := .red, bold := true }), ('b', .plain), ('\n', .plain)]
  := by
  intro a r colors
  have hid : r.contains "letters" := by decide
  have htext : '\x1b' ∉ "ab".toList := by decide
  have hreturn : ¬['\r', '\n'] <:+: "ab".toList := by decide
  obtain ⟨ls, hls, ⟨-, hplain⟩, hstrip, hshown, -, -⟩ :=
    renderDocument_tokenizeDocument hid htext colors
  refine ⟨hid, htext, hreturn, ls, hls, hplain hreturn, hstrip.trans (hplain hreturn), ?_⟩
  rw [hshown]
  obtain rfl : _ = ls := Except.ok.inj hls
  decide +kernel

end Terminal

end Highlight
