import Highlight.Builtin.Registry
import Highlight.Editor.Host
import Highlight.Proofs.Lines
import Highlight.Terminal.Document

/-!
# Line ends

A carriage return in front of a newline belongs to the end of the line, so it makes no difference to
anything that is done line by line: how a text is tokenized, with or without a host, and how
it is shown.  The ends of different lines need not be alike.
-/

namespace Highlight

namespace Text

/-- The text with carriage returns in front of the newlines at the places that are chosen, where
the first character is at the place `n`. -/
def withReturnsFrom (chosen : Nat → Bool) (n : Nat) : List Char → List Char
  | [] => []
  | c :: text =>
    if c = '\n' ∧ chosen n then '\r' :: c :: withReturnsFrom chosen (n + 1) text
    else c :: withReturnsFrom chosen (n + 1) text

/-- The text with carriage returns in front of the newlines at the places that are chosen. -/
def withReturns (chosen : Nat → Bool) (text : String) : String :=
  .ofList (withReturnsFrom chosen 0 text.toList)

variable {collected text : List Char}

/-- A line without a carriage return is kept as it is. -/
theorem endLine_of_not_mem (h : '\r' ∉ collected) :
  endLine collected = collected.reverse
  := by
  rw [endLine.eq_def]
  split
  next => exact absurd List.mem_cons_self h
  next => rfl

/-- The induction is on the text that is left to read, whatever place it starts at. -/
theorem linesFrom_withReturnsFrom (chosen : Nat → Bool) (n : Nat) (hcollected : '\r' ∉ collected)
    (htext : '\r' ∉ text) :
  linesFrom collected (withReturnsFrom chosen n text) = linesFrom collected text
  := by
  induction text generalizing collected n with
  | nil => rfl
  | cons c text ih =>
    rw [List.mem_cons, not_or] at htext
    obtain ⟨hc, htext⟩ := htext
    rw [withReturnsFrom]
    by_cases hnewline : c = '\n'
    · subst hnewline
      have hrest := ih (n + 1) List.not_mem_nil htext
      split
      next =>
        -- The carriage return is collected, and taken away by the newline behind it.
        rw [linesFrom_of_ne (by decide), linesFrom_newline, hrest, linesFrom_newline,
          endLine_of_not_mem hcollected]
        rfl
      next => rw [linesFrom_newline, hrest, linesFrom_newline]
    · rw [if_neg (fun h => hnewline h.1), linesFrom_of_ne hnewline, linesFrom_of_ne hnewline]
      apply ih _ _ htext
      rw [List.mem_cons, not_or]
      exact ⟨hc, hcollected⟩

/-- Carriage returns in front of newlines do not change the lines of a text. -/
theorem lines_withReturns {text : String} (h : '\r' ∉ text.toList) (chosen : Nat → Bool) :
  lines (withReturns chosen text) = lines text
  := by
  rw [lines, withReturns, String.toList_ofList]
  apply linesFrom_withReturnsFrom chosen 0 List.not_mem_nil h

end Text

/-! ### Texts with the same lines -/

variable {text text' : String}

/-- Texts with the same lines are read the same. -/
theorem Registry.tokenizeDocument_of_lines (h : Text.lines text' = Text.lines text) (r : Registry)
    (id : String) :
  r.tokenizeDocument id text' = r.tokenizeDocument id text
  := by rw [tokenizeDocument, h, tokenizeDocument]

/-- Two documents with the same lines, of languages with the same tokenizer, may be on different
hosts. -/
theorem Host.tokenizeDocument_of_lines {h h' : Host} {d d' : Document} {number number' : Nat}
    (hd : h.document? number = some d) (hd' : h'.document? number' = some d')
    (hlines : Text.lines d'.text = Text.lines d.text)
    (ht : h'.tokenizerOf? d' = h.tokenizerOf? d) :
  h'.tokenizeDocument number' = h.tokenizeDocument number
  := by
  rw [tokenizeDocument, tokenizeDocument, hd, hd']
  dsimp only
  rw [ht, hlines]

/-- Texts with the same lines are listed the same. -/
theorem Terminal.dump_of_lines (h : Text.lines text' = Text.lines text)
    (ls : List TokenizedLine) :
  dump text' ls = dump text ls
  := by rw [dump, h, dump]

/-- Texts with the same lines are shown the same. -/
theorem Terminal.renderDocument_of_lines (h : Text.lines text' = Text.lines text)
    (theme : Option Theme) (ls : List TokenizedLine) :
  renderDocument theme text' ls = renderDocument theme text ls
  := by rw [renderDocument, h, renderDocument]

/-! ### All that is done line by line -/

/-- A text without carriage returns, and the same text with one in front of some of its newlines,
are tokenized alike by every grammar.  As documents of one language they are tokenized alike by
hosts that have the same tokenizer for it.  Shown with the same tokenized lines, as a list or as
text, in color or not, they give the same output. -/
theorem tokenizeDocument_withReturns (text : String) (h : '\r' ∉ text.toList)
    (chosen : Nat → Bool) :
  let text' := Text.withReturns chosen text
  (∀ (r : Registry) (id : String), r.tokenizeDocument id text' = r.tokenizeDocument id text) ∧
  (∀ (h h' : Host) (number number' : Nat) (language : Option String),
    h.document? number = some ⟨number, text, language⟩ →
    h'.document? number' = some ⟨number', text', language⟩ →
    (∀ l ∈ language, h'.tokenizer? l = h.tokenizer? l) →
    h'.tokenizeDocument number' = h.tokenizeDocument number) ∧
  ∀ ls, Terminal.dump text' ls = Terminal.dump text ls ∧
    ∀ theme, Terminal.renderDocument theme text' ls = Terminal.renderDocument theme text ls
  := by
  intro text'
  have hlines : Text.lines text' = Text.lines text := Text.lines_withReturns h chosen
  refine ⟨?_, ?_, ?_⟩
  · intro r id
    rw [Registry.tokenizeDocument_of_lines hlines]
  · intro h h' number number' language hd hd' ht
    apply Host.tokenizeDocument_of_lines hd hd' hlines
    cases language with
    | none => rfl
    | some l => apply ht l rfl
  · intro ls
    constructor
    · rw [Terminal.dump_of_lines hlines]
    · intro theme
      rw [Terminal.renderDocument_of_lines hlines]

/-- A block with an empty line that ends with a carriage return and a newline, and other lines that
do not. -/
theorem tokenizeDocument_withReturns_block :
  let text := "- pwsh: |\n  a\n\nb"
  let text' := "- pwsh: |\n  a\n\r\nb"
  let r := Builtin.registry "pipeline" "shell"
  let h : Host := { Host.ready with
    tokenizers := [("pipeline", ⟨r, "pipeline"⟩)]
    documents := [⟨1, text, some "pipeline"⟩, ⟨2, text', some "pipeline"⟩] }
  '\r' ∉ text.toList ∧ text' = Text.withReturns (· = 14) text ∧
    r.tokenizeDocument "pipeline" text' = r.tokenizeDocument "pipeline" text ∧
    h.tokenizeDocument 2 = h.tokenizeDocument 1 ∧
    ∀ ls, Terminal.dump text' ls = Terminal.dump text ls
  := by
  intro text text' r h
  have hnone : '\r' ∉ text.toList := by decide
  have htext' : text' = Text.withReturns (· = 14) text := by decide
  obtain ⟨hregistry, hhost, hshown⟩ := tokenizeDocument_withReturns text hnone (· = 14)
  rw [← htext'] at hregistry hhost hshown
  refine ⟨hnone, htext', hregistry r "pipeline", ?_, fun ls => (hshown ls).1⟩
  apply hhost h h 1 2 (some "pipeline") rfl rfl
  exact fun _ _ => rfl

end Highlight
