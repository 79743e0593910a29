import Mathlib.Logic.Function.Iterate
import Highlight.Proofs.Tokenize
import Highlight.Registry

/-!
# Well-formed line states

In a state that is reached from the root all modes are modes of the grammar, and each of them but
the innermost has rules.  Only an innermost mode that hands its lines to another grammar comes with
a state of that grammar, which is well formed in turn.
-/

namespace Highlight

/-- The modes can have been entered one inside the other, the innermost of them first. -/
structure Grammar.Nests (g : Grammar) (stack : List Nat) : Prop where
  lt_length : ∀ i ∈ stack, i < g.modes.length
  isSome_rules? : ∀ i ∈ stack.tail, (g.rules? i).isSome

/-- The state fits the grammar, where the other grammars are found by `lookup`.  A grammar that is
not known stays at the root. -/
def LineState.WellFormed (lookup : String → Option Grammar) : LineState → Grammar → Prop
  | plain stack, g => g.Nests stack
  | embedding stack inner, g =>
    g.Nests stack ∧ ∃ e, g.embedding? (stack.headD 0) = some e ∧
      match lookup e.grammar with
      | some h => inner.WellFormed lookup h
      | none => inner = root

/-- The grammar `k` is in the state `t` when a grammar is in a state: it is the grammar itself, or
one that has been handed a line in it. -/
inductive LineState.Holds (lookup : String → Option Grammar) (k : Grammar) (t : LineState) :
    LineState → Grammar → Prop where
  | self : Holds lookup k t t k
  | inner {stack : List Nat} {inner : LineState} {g h : Grammar} {e : Embedding}
      (hembedding : g.embedding? (stack.headD 0) = some e) (hlookup : lookup e.grammar = some h)
      (hinner : Holds lookup k t inner h) :
    Holds lookup k t (.embedding stack inner) g

/-- The states inside of a well-formed state are well-formed for the grammars that they are handed
to. -/
theorem LineState.WellFormed.of_holds {lookup : String → Option Grammar} {g k : Grammar}
    {s t : LineState} (h : s.WellFormed lookup g) (ht : Holds lookup k t s g) :
  t.WellFormed lookup k
  := by
  induction ht with
  | self => apply h
  | inner hembedding hlookup _ ih =>
    obtain ⟨-, e, he, hinner⟩ := h
    rw [hembedding] at he
    cases he
    rw [hlookup] at hinner
    apply ih hinner

namespace Grammar

variable {g : Grammar} {stack : List Nat}

theorem Nests.nil (g : Grammar) :
  g.Nests []
  := ⟨nofun, nofun⟩

/-- Leaving a mode keeps the modes nested. -/
theorem Nests.tail (h : g.Nests stack) :
  g.Nests stack.tail
  where
  lt_length i hi := h.lt_length i (List.mem_of_mem_tail hi)
  isSome_rules? i hi := h.isSome_rules? i (List.mem_of_mem_tail hi)

/-- Only from a mode with rules another mode is entered. -/
theorem Nests.push (h : g.Nests stack) (hrules : (g.rules? (stack.headD 0)).isSome) {i : Nat}
    (hi : i < g.modes.length) :
  g.Nests (i :: stack)
  where
  lt_length j hj := by
    rcases List.mem_cons.mp hj with rfl | hj
    · apply hi
    · apply h.lt_length j hj
  isSome_rules? j hj := by
    cases stack with
    | nil => cases hj
    | cons k stack =>
      rcases List.mem_cons.mp hj with rfl | hj
      · apply hrules
      · apply h.isSome_rules? j hj

/-- Each mode on a nested stack is there. -/
theorem Nests.exists_mode (h : g.Nests stack) :
  ∃ m, g.mode? (stack.headD 0) = some m
  := by
  cases stack with
  | nil => exact ⟨_, rfl⟩
  | cons i stack => exact ⟨_, List.getElem?_eq_getElem (h.lt_length i List.mem_cons_self)⟩

theorem embedding?_eq_none_of_isSome_rules? {i : Nat} (h : (g.rules? i).isSome) :
  g.embedding? i = none
  := by
  rw [rules?] at h
  rw [embedding?]
  cases hmode : g.mode? i with
  | none => rfl
  | some m =>
    obtain ⟨name, body⟩ := m
    rw [hmode] at h
    cases body with
    | rules rules => rfl
    | embedded e => cases h

variable {lookup : String → Option Grammar} {s : LineState}

/-- A well-formed state has its modes nested. -/
theorem nests_of_wellFormed (h : s.WellFormed lookup g) :
  g.Nests s.stack
  := by
  cases s with
  | plain stack => apply h
  | embedding stack inner => apply h.1

/-- A rule of the mode keeps the state well-formed. -/
theorem wellFormed_apply (h : s.WellFormed lookup g) {rules : List Rule}
    (hrules : g.rules? s.mode = some rules) (a : Action) :
  (g.apply a s).WellFormed lookup g
  := by
  have hnests := nests_of_wellFormed h
  cases a with
  | stay => apply h
  | push target =>
    rw [apply]
    split
    next i hi =>
      obtain ⟨hlt, -⟩ := List.findIdx?_eq_some_iff_getElem.mp hi
      apply hnests.push (Option.isSome_of_eq_some hrules) hlt
    next => apply h
  | pop => apply hnests.tail

/-- The rules keep states well-formed over a scan. -/
theorem keeps_wellFormed (lookup : String → Option Grammar) (g : Grammar) (c : Cursor) :
  g.Keeps (·.WellFormed lookup g) c
  := by
  intro s rules hs hrules r _ d _ _
  apply wellFormed_apply hs hrules

/-- The root state is well-formed for each grammar. -/
theorem wellFormed_root (lookup : String → Option Grammar) (g : Grammar) :
  LineState.root.WellFormed lookup g
  := Nests.nil g

/-- The state of the grammar that lines are handed to is well formed, whether or not it has had a
line before. -/
theorem wellFormed_inner (h : s.WellFormed lookup g) {e : Embedding}
    (hembedding : g.embedding? s.mode = some e) :
  match lookup e.grammar with
  | some k => s.inner.WellFormed lookup k
  | none => s.inner = .root
  := by
  cases s with
  | plain stack =>
    split
    next k _ => apply wellFormed_root
    next => rfl
  | embedding stack inner =>
    obtain ⟨-, e', he', hinner⟩ := h
    have he : some e = some e' := hembedding.symm.trans he'
    cases he
    apply hinner

variable {line : List Char}

/-- A line keeps states well formed. -/
theorem Tokenizes.wellFormed {l : TokenizedLine} (h : Tokenizes lookup line g s l)
    (hs : s.WellFormed lookup g) :
  l.endState.WellFormed lookup g
  := by
  induction h with
  | scanned => apply (keeps_wellFormed lookup _ _).plainLine hs
  | left _ _ _ ih => apply ih (nests_of_wellFormed hs).tail
  | handed hembedding _ hlookup _ ih =>
    have hinner := wellFormed_inner hs hembedding
    rw [hlookup] at hinner
    refine ⟨nests_of_wellFormed hs, _, hembedding, ?_⟩
    rw [hlookup]
    apply ih hinner
  | unknown hembedding _ hlookup =>
    have hinner := wellFormed_inner hs hembedding
    rw [hlookup] at hinner
    refine ⟨nests_of_wellFormed hs, _, hembedding, ?_⟩
    rw [hlookup]
    apply hinner

/-- From a well-formed state all lines end in well-formed states. -/
theorem wellFormed_tokenizeLines (h : s.WellFormed lookup g) (lines : List (List Char)) :
  ∀ l ∈ g.tokenizeLines lookup s lines, l.endState.WellFormed lookup g
  := by
  induction lines generalizing s with
  | nil => nofun
  | cons line lines ih =>
    intro l hl
    rw [tokenizeLines] at hl
    have hline := (tokenizes_tokenizeLine lookup line g s).wellFormed h
    rcases List.mem_cons.mp hl with rfl | hl
    · apply hline
    · apply ih hline l hl

/-- The mode of a well-formed state is a mode of the grammar, and gives the state its name. -/
theorem exists_modeName (h : s.WellFormed lookup g) :
  ∃ m, g.mode? s.mode = some m ∧ g.modeName s = m.name
  := by
  obtain ⟨m, hm⟩ := (nests_of_wellFormed h).exists_mode
  use m, hm
  have hmode : g.mode? s.mode = some m := hm
  rw [modeName, hmode]
  rfl

/-! ### Leaving modes -/

/-- The number of modes that are left before the line is sorted: those that hand lines to other
grammars but do not go on with this one. -/
def leaving (g : Grammar) (line : List Char) : (stack : List Nat) → Nat
  | [] => 0
  | mode :: stack =>
    match g.embedding? mode with
    | none => 0
    | some e => if e.continues.occursIn line then 0 else g.leaving line stack + 1

theorem leaving_eq_zero (h : g.embedding? (stack.headD 0) = none) :
  g.leaving line stack = 0
  := by
  cases stack with
  | nil => rfl
  | cons mode stack =>
    replace h : g.embedding? mode = none := h
    rw [leaving, h]

/-- A mode is left if its pattern does not occur in the line. -/
theorem leaving_eq_succ {mode : Nat} {e : Embedding} (h : g.embedding? mode = some e)
    (hcontinues : ¬e.continues.occursIn line) :
  g.leaving line (mode :: stack) = g.leaving line stack + 1
  := by
  rw [leaving, h]
  apply if_neg hcontinues

/-- A mode is not left if its pattern occurs in the line. -/
theorem leaving_eq_zero_of_occursIn {mode : Nat} {e : Embedding} (h : g.embedding? mode = some e)
    (hcontinues : e.continues.occursIn line) :
  g.leaving line (mode :: stack) = 0
  := by
  rw [leaving, h]
  apply if_pos hcontinues

/-- The line is sorted from the state in which those modes have been left. -/
theorem tokenizeLine_iterate_pop (lookup : String → Option Grammar) (line : List Char)
    (g : Grammar) (s : LineState) :
  g.tokenizeLine lookup line (LineState.pop^[g.leaving line s.stack] s)
    = g.tokenizeLine lookup line s
  := by
  induction hstack : s.stack generalizing s with
  | nil => rfl
  | cons mode stack ih =>
    have hmode : s.mode = mode := by rw [LineState.mode, hstack, List.headD_cons]
    cases hembedding : g.embedding? mode with
    | none => rw [leaving_eq_zero hembedding, Function.iterate_zero_apply]
    | some e =>
      by_cases hcontinues : e.continues.occursIn line
      · rw [leaving_eq_zero_of_occursIn hembedding hcontinues, Function.iterate_zero_apply]
      · have hpop : s.pop.stack = stack := by
          rw [LineState.pop, hstack]
          rfl
        rw [leaving_eq_succ hembedding hcontinues, Function.iterate_succ_apply, ih s.pop hpop]
        rw [← hmode] at hembedding
        symm
        apply tokenizeLine_left hembedding hcontinues

theorem stack_iterate_pop (n : Nat) (s : LineState) :
  (LineState.pop^[n] s).stack = s.stack.drop n
  := by
  induction n with
  | zero => rfl
  | succ n ih =>
    rw [Function.iterate_succ_apply', ← List.tail_drop, ← ih]
    rfl

/-- In that state the line leaves no mode any more. -/
theorem leaving_iterate_pop (g : Grammar) (line : List Char) (s : LineState) :
  g.leaving line (LineState.pop^[g.leaving line s.stack] s).stack = 0
  := by
  rw [stack_iterate_pop]
  induction s.stack with
  | nil => rfl
  | cons mode stack ih =>
    cases hembedding : g.embedding? mode with
    | none =>
      have hzero : g.leaving line (mode :: stack) = 0 := leaving_eq_zero hembedding
      rw [hzero, List.drop_zero, hzero]
    | some e =>
      by_cases hcontinues : e.continues.occursIn line
      · have hzero : g.leaving line (mode :: stack) = 0 :=
          leaving_eq_zero_of_occursIn hembedding hcontinues
        rw [hzero, List.drop_zero, hzero]
      · rw [leaving_eq_succ hembedding hcontinues, List.drop_succ_cons, ih]

/-- At most one mode is left, because all others have rules. -/
theorem Nests.leaving_le_one (h : g.Nests stack) (line : List Char) :
  g.leaving line stack ≤ 1
  := by
  cases stack with
  | nil => apply Nat.zero_le
  | cons mode stack =>
    rw [leaving]
    split
    next => apply Nat.zero_le
    next e _ =>
      split
      next => apply Nat.zero_le
      next =>
        cases stack with
        | nil => apply le_rfl
        | cons mode' stack =>
          have hrules := h.isSome_rules? mode' List.mem_cons_self
          rw [leaving_eq_zero (embedding?_eq_none_of_isSome_rules? hrules)]

/-! ### Lines one after another -/

/-- The states that lines leave when they are sorted one after another from the root are well
formed.  For every grammar that is in a state then, the mode is a mode of the grammar, and the next
line leaves at most one mode before it is sorted. -/
theorem wellFormed_of_mem_tokenizeLines (r : Registry) (g : Grammar) (lines : List (List Char)) :
  ∀ l ∈ g.tokenizeLines r.get? .root lines,
    l.endState.WellFormed r.get? g ∧
      ∀ k t, LineState.Holds r.get? k t l.endState g →
        (∃ m, k.mode? t.mode = some m ∧ k.modeName t = m.name) ∧
          ∀ line, k.leaving line t.stack ≤ 1 ∧
            let u := LineState.pop^[k.leaving line t.stack] t
            k.leaving line u.stack = 0 ∧
              k.tokenizeLine r.get? line u = k.tokenizeLine r.get? line t
  := by
  intro l hl
  have h := wellFormed_tokenizeLines (wellFormed_root r.get? g) lines l hl
  use h
  intro k t hholds
  have ht := h.of_holds hholds
  use exists_modeName ht
  intro line
  use (nests_of_wellFormed ht).leaving_le_one line
  use k.leaving_iterate_pop line t
  apply tokenizeLine_iterate_pop

/-- A line that enters a mode, and one that the mode hands to another grammar, in which it enters a
mode as well.  A third line leaves just the first one of them. -/
theorem wellFormed_of_mem_tokenizeLines_nested :
  let enter (name : String) (c : Char) (mode : String) : Rule :=
    { name, pattern := .ofForm (.char c), kind := .keyword, action := .push mode }
  let inner : Grammar :=
    { id := "inner", rootRules := [enter "bracket" '(' "text"], others := [⟨"text", .rules []⟩] }
  let outer : Grammar :=
    { id := "outer", rootRules := [enter "colon" ':' "block"],
      others := [⟨"block", .embedded ⟨"inner", .ofForm (.set .space)⟩⟩] }
  let r := Registry.empty.insert inner
  let s := LineState.embedding [1] (.plain [1])
  ⟨"inner", [⟨0, 2, .default⟩, ⟨2, 3, .keyword⟩], s⟩ ∈
      outer.tokenizeLines r.get? .root [['x', ':'], [' ', 'a', '(']] ∧
    s.WellFormed r.get? outer ∧
    (∃ m, inner.mode? 1 = some m ∧ inner.modeName (.plain [1]) = m.name) ∧
    outer.leaving ['y'] [1] = 1 ∧
    outer.tokenizeLine r.get? ['y'] .root = outer.tokenizeLine r.get? ['y'] s
  := by
  intro enter inner outer r s
  have hmem : ⟨"inner", [⟨0, 2, .default⟩, ⟨2, 3, .keyword⟩], s⟩ ∈
      outer.tokenizeLines r.get? .root [['x', ':'], [' ', 'a', '(']] := by decide +kernel
  obtain ⟨hs, hholds⟩ := wellFormed_of_mem_tokenizeLines r outer _ _ hmem
  have hleaving : outer.leaving ['y'] [1] = 1 := by decide
  refine ⟨hmem, hs, (hholds inner (.plain [1]) ?_).1, hleaving, ?_⟩
  · exact .inner rfl rfl .self
  · exact ((hholds outer s .self).2 ['y']).2.2

end Grammar

end Highlight
