import Highlight.Editor.Host
import Highlight.Proofs.Document
import Highlight.Proofs.Lines

/-!
# Documents in parts

A document is tokenized the same way at once, line after line, and in a host.  The lines of a
text that goes on behind a closed one are tokenized from the state that the lines before them
leave.
-/

namespace Highlight

/-- The state that tokenized lines leave for the line behind them. -/
def TokenizedLine.lastState (lines : List TokenizedLine) : LineState :=
  (lines.getLast?.map (·.endState)).getD .root

/-! ### Lines of two parts -/

namespace Grammar

variable (g : Grammar) (lookup : String → Option Grammar)

/-- Lines of two parts are read one part after the other, the second in the state that the first
leaves. -/
theorem tokenizeLines_append (state : LineState) (front back : List (List Char)) :
  g.tokenizeLines lookup state (front ++ back) =
    g.tokenizeLines lookup state front ++
      g.tokenizeLines lookup (g.stateAfter lookup state front) back
  := by
  induction front generalizing state with
  | nil => rfl
  | cons line front ih =>
    rw [List.cons_append, tokenizeLines, tokenizeLines, ih]
    rfl

/-- The state of the last line is that after all lines. -/
theorem getLast?_tokenizeLines (state : LineState) (lines : List (List Char)) :
  ((g.tokenizeLines lookup state lines).getLast?.map (·.endState)).getD state =
    g.stateAfter lookup state lines
  := by
  induction lines generalizing state with
  | nil => rfl
  | cons line lines ih =>
    rw [tokenizeLines, List.getLast?_cons, stateAfter, List.foldl_cons, ← stateAfter, ← ih]
    cases (g.tokenizeLines lookup _ lines).getLast? <;> rfl

end Grammar

/-! ### Line after line -/

namespace Tokenizer

variable {t : Tokenizer}

/-- A tokenizer with a known grammar reads lines as the grammar does. -/
theorem tokenizeLines_eq {g : Grammar} (h : t.registry.get? t.grammar = some g)
    (state : LineState) (lines : List (List Char)) :
  t.tokenizeLines state lines = .ok (g.tokenizeLines t.registry.get? state lines)
  := by
  induction lines generalizing state with
  | nil => rfl
  | cons line lines ih =>
    rw [tokenizeLines, tokenizeLine, Registry.tokenizeLine_eq h]
    apply (congrArg (Except.map _) (ih _)).trans
    rfl

/-- The grammar is only asked for when there is a line. -/
theorem tokenizeLines_unknown (h : t.registry.get? t.grammar = none) (state : LineState)
    (lines : List (List Char)) :
  t.tokenizeLines state lines =
    if lines = [] then .ok [] else .error (.unknownGrammar t.grammar)
  := by
  cases lines with
  | nil => rfl
  | cons line lines =>
    rw [tokenizeLines, tokenizeLine, Registry.tokenizeLine, Registry.find, h]
    rfl

/-- Lines tokenized one after another are those of the document, unless the grammar is unknown. -/
theorem tokenizeLines_lines (t : Tokenizer) (text : String) :
  t.tokenizeLines .root (Text.lines text) =
    if t.registry.contains t.grammar then t.registry.tokenizeDocument t.grammar text
    else if Text.lines text = [] then .ok [] else .error (.unknownGrammar t.grammar)
  := by
  unfold Registry.contains
  cases h : t.registry.get? t.grammar with
  | none =>
    rw [tokenizeLines_unknown h]
    rfl
  | some g =>
    rw [tokenizeLines_eq h, Registry.tokenizeDocument_eq h]
    rfl

end Tokenizer

namespace Registry

variable {r : Registry} {id : String}

/-- The part behind a closed one goes on in the state that the closed one leaves. -/
theorem exists_tokenizeDocument_append {front : String} (h : r.contains id)
    (hfront : Text.IsClosed front.toList) (back : String) :
  ∃ ls ms, r.tokenizeDocument id front = .ok ls ∧
    (Tokenizer.mk r id).tokenizeLines (TokenizedLine.lastState ls) (Text.lines back) = .ok ms ∧
    r.tokenizeDocument id (front ++ back) = .ok (ls ++ ms)
  := by
  obtain ⟨g, hg⟩ := Option.isSome_iff_exists.mp h
  have hlast := g.getLast?_tokenizeLines r.get? .root (Text.lines front)
  refine ⟨_, _, tokenizeDocument_eq hg front, Tokenizer.tokenizeLines_eq hg _ _, ?_⟩
  rw [tokenizeDocument_eq hg, Text.lines_append hfront, Grammar.tokenizeLines_append,
    TokenizedLine.lastState, hlast]

end Registry

/-! ### Documents of hosts -/

namespace Host

variable {h : Host} {number : Nat} {d : Document}

/-- A document without a tokenizer is left unclassified. -/
theorem tokenizeDocument_plain (hd : h.document? number = some d) (ht : h.tokenizerOf? d = none) :
  h.tokenizeDocument number = .ok ((Text.lines d.text).map Document.plainLine)
  := by
  rw [tokenizeDocument, hd]
  dsimp only
  rw [ht]

/-- A document with a tokenizer is read by it from the root mode. -/
theorem tokenizeDocument_of_tokenizer {t : Tokenizer} (hd : h.document? number = some d)
    (ht : h.tokenizerOf? d = some t) :
  h.tokenizeDocument number = (t.tokenizeLines .root (Text.lines d.text)).mapError .grammar
  := by
  rw [tokenizeDocument, hd]
  dsimp only
  rw [ht]

/-- A document is reported as missing exactly if the host has none of its number. -/
theorem tokenizeDocument_eq_noDocument_iff {n : Nat} :
  h.tokenizeDocument number = .error (.noDocument n) ↔
    n = number ∧ ∀ d ∈ h.documents, d.number ≠ number
  := by
  cases hd : h.document? number with
  | none =>
    have hnone : ∀ d ∈ h.documents, d.number ≠ number := by simpa [document?] using hd
    rw [tokenizeDocument, hd]
    simp only [Except.error.injEq, HostError.noDocument.injEq]
    exact ⟨fun hn => ⟨hn.symm, hnone⟩, fun hn => hn.1.symm⟩
  | some d =>
    have hnumber : d.number = number := by simpa using List.find?_some hd
    apply iff_of_false
    · -- The fault of a tokenizer is one of its grammar, and plain lines have none.
      cases ht : h.tokenizerOf? d with
      | none =>
        rw [tokenizeDocument_plain hd ht]
        nofun
      | some t =>
        rw [tokenizeDocument_of_tokenizer hd ht]
        cases t.tokenizeLines .root (Text.lines d.text) <;> nofun
    · rintro ⟨-, hnone⟩
      apply hnone d (List.mem_of_find?_eq_some hd) hnumber

end Host

/-! ### All ways to tokenize a document -/

/-- The first part is a text in two parts; the second one is a document of a host. -/
theorem tokenizeDocument_line_by_line :
  (∀ (r : Registry) (id front back : String), r.contains id → Text.IsClosed front.toList →
    ∃ ls ms, r.tokenizeDocument id front = .ok ls ∧
      (Tokenizer.mk r id).tokenizeLines (TokenizedLine.lastState ls) (Text.lines back) = .ok ms ∧
      r.tokenizeDocument id (front ++ back) = .ok (ls ++ ms)) ∧
  (∀ (h : Host) (number : Nat),
    (∀ n, h.tokenizeDocument number = .error (.noDocument n) ↔
      n = number ∧ ∀ d ∈ h.documents, d.number ≠ number) ∧
    ∀ d, h.document? number = some d →
      (∀ language r id, d.language = some language → h.tokenizer? language = some ⟨r, id⟩ →
        (r.contains id →
          ∃ ls, r.tokenizeDocument id d.text = .ok ls ∧ h.tokenizeDocument number = .ok ls) ∧
        (¬r.contains id → h.tokenizeDocument number =
          if Text.lines d.text = [] then .ok [] else .error (.grammar (.unknownGrammar id)))) ∧
      ((∀ language ∈ d.language, h.tokenizer? language = none) →
        h.tokenizeDocument number = .ok ((Text.lines d.text).map fun line =>
          ⟨"plaintext", if line = [] then [] else [⟨0, Text.size line, .default⟩], .root⟩)))
  := by
  constructor
  · intro r id front back hid hfront
    apply Registry.exists_tokenizeDocument_append hid hfront
  · intro h number
    use fun n => Host.tokenizeDocument_eq_noDocument_iff
    intro d hd
    constructor
    · intro language r id hlanguage htokenizer
      have ht : h.tokenizerOf? d = some ⟨r, id⟩ := by
        rw [Host.tokenizerOf?, hlanguage, Option.bind_some, htokenizer]
      have heq := Host.tokenizeDocument_of_tokenizer hd ht
      rw [Tokenizer.tokenizeLines_lines] at heq
      constructor
      · intro hid
        obtain ⟨g, hg⟩ := Option.isSome_iff_exists.mp hid
        have hdocument := Registry.tokenizeDocument_eq hg d.text
        refine ⟨_, hdocument, ?_⟩
        rw [heq, if_pos hid, hdocument]
        rfl
      · intro hid
        rw [heq, if_neg hid]
        split <;> rfl
    · intro hnone
      have ht : h.tokenizerOf? d = none := Option.bind_eq_none_iff.mpr hnone
      apply Host.tokenizeDocument_plain hd ht

/-- A text cut behind a carriage return and a newline, and documents with a tokenizer, with one of
which the grammar is unknown, and with none. -/
theorem tokenizeDocument_line_by_line_three :
  let r : Registry := ⟨[{ id := "letters" }], []⟩
  let h : Host := { Host.ready with
    tokenizers := [("known", ⟨r, "letters"⟩), ("unknown", ⟨r, "digits"⟩)]
    documents := [⟨1, "a", some "known"⟩, ⟨2, "a", some "unknown"⟩, ⟨3, "a\n\n", none⟩] }
  (r.contains "letters" ∧ Text.IsClosed "a\r\n".toList ∧
    ∃ ls ms, r.tokenizeDocument "letters" "a\r\n" = .ok ls ∧
      (Tokenizer.mk r "letters").tokenizeLines (TokenizedLine.lastState ls) (Text.lines "\nb") =
        .ok ms ∧
      r.tokenizeDocument "letters" ("a\r\n" ++ "\nb") = .ok (ls ++ ms)) ∧
  (∃ ls, r.tokenizeDocument "letters" "a" = .ok ls ∧ h.tokenizeDocument 1 = .ok ls) ∧
  h.tokenizeDocument 2 = .error (.grammar (.unknownGrammar "digits")) ∧
  h.tokenizeDocument 3 =
    .ok [⟨"plaintext", [⟨0, 1, .default⟩], .root⟩, ⟨"plaintext", [], .root⟩] ∧
  h.tokenizeDocument 4 = .error (.noDocument 4)
  := by
  intro r h
  have hknown : r.contains "letters" := by decide
  have hunknown : ¬r.contains "digits" := by decide
  have hclosed : Text.IsClosed "a\r\n".toList := by decide
  obtain ⟨parts, hosts⟩ := tokenizeDocument_line_by_line
  refine ⟨⟨hknown, hclosed, parts r _ _ "\nb" hknown hclosed⟩, ?_, ?_, ?_, ?_⟩
  · apply (((hosts h 1).2 _ rfl).1 "known" r "letters" rfl rfl).1 hknown
  · apply (((hosts h 2).2 _ rfl).1 "unknown" r "digits" rfl rfl).2 hunknown
  · apply ((hosts h 3).2 _ rfl).2 nofun
  · apply ((hosts h 4).1 4).mpr
    decide

end Highlight
