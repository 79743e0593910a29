import Highlight.Proofs.Document
import Highlight.Proofs.Tokenize

/-!
# Grammars that a line can come to

A grammar hands lines only to the grammars that its modes name, and those hand them on to the
grammars that theirs name.  What it makes of a line does not depend on any other grammar, whatever
state it gets the line in, and even if the grammars hand lines to each other in a circle.
-/

namespace Highlight

namespace Grammar

variable {g k : Grammar} {lookup lookup' : String → Option Grammar} {line : List Char}
  {s : LineState} {l : TokenizedLine} {e : Embedding} {id : String}

/-- A line can come from the grammar to the one with the identifier `id`, through grammars that are
found by `lookup`. -/
inductive Reaches (lookup : String → Option Grammar) (id : String) : Grammar → Prop where
  | embedded {g : Grammar} {m : Mode} {e : Embedding} (hm : m ∈ g.modes)
      (he : m.embedding? = some e) (hid : e.grammar = id) :
    Reaches lookup id g
  | through {g k : Grammar} {m : Mode} {e : Embedding} (hm : m ∈ g.modes)
      (he : m.embedding? = some e) (hlookup : lookup e.grammar = some k)
      (hk : Reaches lookup id k) :
    Reaches lookup id g

/-- An embedding is that of a mode. -/
theorem exists_mode_of_embedding? {i : Nat} (h : g.embedding? i = some e) :
  ∃ m ∈ g.modes, m.embedding? = some e
  := by
  obtain ⟨m, hm, he⟩ := Option.bind_eq_some_iff.mp h
  exact ⟨m, List.mem_of_getElem? hm, he⟩

/-- The grammars that a line can come to are found in the same way by both. -/
def Agree (lookup lookup' : String → Option Grammar) (g : Grammar) : Prop :=
  ∀ id, g.Reaches lookup id → lookup id = lookup' id

/-- If two registries agree on a grammar, they have the same grammar for each of its embeddings. -/
theorem Agree.lookup_eq (h : g.Agree lookup lookup') {i : Nat} (he : g.embedding? i = some e) :
  lookup e.grammar = lookup' e.grammar
  := by
  obtain ⟨m, hm, he⟩ := exists_mode_of_embedding? he
  apply h
  apply Reaches.embedded hm he rfl

/-- If two registries agree on a grammar, they agree on the grammars that it hands lines to. -/
theorem Agree.handed (h : g.Agree lookup lookup') {i : Nat} (he : g.embedding? i = some e)
    (hlookup : lookup e.grammar = some k) :
  k.Agree lookup lookup'
  := by
  obtain ⟨m, hm, he⟩ := exists_mode_of_embedding? he
  intro id hk
  apply h
  apply Reaches.through hm he hlookup hk

/-- A grammar that lines cannot come to may be any. -/
theorem Agree.of_not_reaches (hne : ∀ i ≠ id, lookup i = lookup' i)
    (hid : ¬g.Reaches lookup id) :
  g.Agree lookup lookup'
  := by
  intro i hi
  apply hne
  rintro rfl
  exact hid hi

/-- The line goes through the same grammars.  The induction is on its way. -/
theorem Tokenizes.tokenizeLine_eq (hl : Tokenizes lookup line g s l)
    (h : g.Agree lookup lookup') :
  g.tokenizeLine lookup' line s = l
  := by
  induction hl with
  | scanned hnone => rw [tokenizeLine_scanned lookup' line hnone, scanLine_eq_plainLine]
  | left he hcontinues _ ih => rw [tokenizeLine_left he hcontinues, ih h]
  | handed he hcontinues hlookup _ ih =>
    rw [tokenizeLine_continued he hcontinues, ← h.lookup_eq he, hlookup]
    dsimp only
    rw [ih (h.handed he hlookup)]
  | unknown he hcontinues hlookup =>
    rw [tokenizeLine_continued he hcontinues, ← h.lookup_eq he, hlookup]

/-- If two registries agree on a grammar, they read its lines the same. -/
theorem Agree.tokenizeLine (h : g.Agree lookup lookup') (line : List Char) (s : LineState) :
  g.tokenizeLine lookup line s = g.tokenizeLine lookup' line s
  := ((tokenizes_tokenizeLine lookup line g s).tokenizeLine_eq h).symm

/-- If two registries agree on a grammar, they read all lines the same. -/
theorem Agree.tokenizeLines (h : g.Agree lookup lookup') (s : LineState)
    (lines : List (List Char)) :
  g.tokenizeLines lookup s lines = g.tokenizeLines lookup' s lines
  := by
  induction lines generalizing s with
  | nil => rfl
  | cons line lines ih =>
    rw [Grammar.tokenizeLines, Grammar.tokenizeLines, h.tokenizeLine, ih]

end Grammar

namespace Registry

variable {r r' : Registry} {g k : Grammar} {id : String}

theorem register_eq_ok_iff :
  r.register k = .ok r' ↔ k.validate = .ok () ∧ r' = r.insert k
  := by
  rw [register]
  cases k.validate with
  | error e => simp [bind, Except.bind]
  | ok _ => simp [bind, Except.bind, pure, Except.pure, eq_comm]

/-- Registering a grammar changes nothing for the other identifiers. -/
theorem get?_of_register (h : r.register k = .ok r') (hid : id ≠ k.id) :
  r'.get? id = r.get? id
  := by
  obtain ⟨-, rfl⟩ := register_eq_ok_iff.mp h
  rw [get?_insert, if_neg hid.symm]

/-- If two registries agree on a grammar, they read its documents the same. -/
theorem tokenizeDocument_congr (h : g.Agree r.get? r'.get?) (hg : r.get? id = some g)
    (hg' : r'.get? id = some g) (text : String) :
  r.tokenizeDocument id text = r'.tokenizeDocument id text
  := by rw [tokenizeDocument_eq hg, tokenizeDocument_eq hg', h.tokenizeLines]

/-- Registries that have the same grammars under the identifiers that a grammar can hand lines to,
directly or through each other, and that lack the same ones of them, make no difference to the
grammar.  So it makes no difference whether a grammar is registered that it does not hand lines to,
be it a new one or one in the place of another. -/
theorem tokenizeLine_of_reached (g : Grammar) (r r' : Registry) :
  ((∀ id, g.Reaches r.get? id → r.get? id = r'.get? id) →
    (∀ line s, g.tokenizeLine r.get? line s = g.tokenizeLine r'.get? line s) ∧
    (r.get? g.id = some g → r'.get? g.id = some g →
      ∀ text, r.tokenizeDocument g.id text = r'.tokenizeDocument g.id text)) ∧
  ∀ k, r.register k = .ok r' → ¬g.Reaches r.get? k.id ∨ ¬g.Reaches r'.get? k.id →
    (∀ line s, g.tokenizeLine r.get? line s = g.tokenizeLine r'.get? line s) ∧
    (g.id ≠ k.id → r.get? g.id = some g →
      ∀ text, r.tokenizeDocument g.id text = r'.tokenizeDocument g.id text)
  := by
  constructor
  · intro h
    exact ⟨Grammar.Agree.tokenizeLine h, tokenizeDocument_congr h⟩
  · rintro k hk hreaches
    have hagree : g.Agree r.get? r'.get? ∨ g.Agree r'.get? r.get? := by
      apply hreaches.imp <;> apply Grammar.Agree.of_not_reaches
      · exact fun i hi => (get?_of_register hk hi).symm
      · exact fun i hi => get?_of_register hk hi
    constructor
    · intro line s
      obtain h | h := hagree
      · apply h.tokenizeLine
      · symm
        apply h.tokenizeLine
    · intro hid hg text
      have hg' : r'.get? g.id = some g := (get?_of_register hk hid).trans hg
      obtain h | h := hagree
      · apply tokenizeDocument_congr h hg hg'
      · symm
        apply tokenizeDocument_congr h hg' hg

/-- A grammar that hands lines to itself, and one that takes the place of a grammar which lines do
not come to. -/
theorem tokenizeLine_of_reached_circle :
  let turn : Rule :=
    { name := "turn", pattern := .ofForm .empty, kind := .keyword, action := .push "inner" }
  let g : Grammar :=
    { id := "g", rootRules := [turn], others := [⟨"inner", .embedded ⟨"g", .ofForm .empty⟩⟩] }
  let k : Grammar := { id := "k", rootRules := [{ turn with action := .stay }] }
  let r := (Registry.empty.insert g).insert { id := "k" }
  let r' := r.insert k
  (∀ id, g.Reaches r.get? id → r.get? id = r'.get? id) ∧ r.get? "g" = some g ∧
    r'.get? "g" = some g ∧ r.register k = .ok r' ∧ ¬g.Reaches r.get? "k" ∧
    r.tokenizeDocument "g" "\n\na" = r'.tokenizeDocument "g" "\n\na" ∧
    g.tokenizeLine r.get? [] (.embedding [1] (.plain [1])) =
      g.tokenizeLine r'.get? [] (.embedding [1] (.plain [1]))
  := by
  intro turn g k r r'
  have hembeds : ∀ m ∈ g.modes, ∀ e ∈ m.embedding?, e.grammar = "g" := by decide
  have hg : r.get? "g" = some g := by decide
  have hg' : r'.get? "g" = some g := by decide
  have hreaches (h : Grammar) (id : String) (hid : h.Reaches r.get? id) : h = g → id = "g" := by
    induction hid with
    | embedded hm he hid =>
      rintro rfl
      rw [← hid]
      apply hembeds _ hm _ he
    | through hm he hlookup _ ih =>
      rintro rfl
      rw [hembeds _ hm _ he, hg] at hlookup
      apply ih (Option.some.inj hlookup).symm
  have hagree : ∀ id, g.Reaches r.get? id → r.get? id = r'.get? id := by
    intro id hid
    rw [hreaches g id hid rfl, hg, hg']
  have hk : ¬g.Reaches r.get? "k" := by
    intro hid
    exact absurd (hreaches g "k" hid rfl) (by decide)
  have hregister : r.register k = .ok r' := by decide
  obtain ⟨hreached, hreplaced⟩ := tokenizeLine_of_reached g r r'
  refine ⟨hagree, hg, hg', hregister, hk, ?_, ?_⟩
  · apply (hreplaced k hregister (.inl hk)).2 (by decide) hg
  · apply (hreached hagree).1

end Registry

end Highlight
