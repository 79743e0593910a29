import Highlight.Builtin.Registry
import Highlight.Proofs.Document
import Highlight.Proofs.Language
import Highlight.Proofs.Tokenize

/-!
# Script blocks

The built-in registry cuts a document into lines of pipeline definitions and lines of shell scripts.
A script block goes from behind a line that opens it to the next line that does not start with white
space.
-/

namespace Highlight.Builtin.Pipeline

section

open Pattern Pattern.Form

variable {line : List Char} {c : Cursor}

/-! ### Lines that open a script block, and lines that go on with one -/

/-- The lines that open a script block. -/
def opening : Language Char :=
  runs .space * (1 + {['-']} * runs .space) * listed ["pwsh", "powershell"] * {[':']} *
    runs .space * (1 + anyOf ['|', '>'] * (1 + anyOf ['-', '+'])) * runs .space

/-- The line starts with white space. -/
def startsBlank (line : List Char) : Bool :=
  line.head?.any Unicode.isSpace

/-- What an opener reads between the ends of its line. -/
def openerPieces : List Form :=
  [group 1 blanks, opt (inSequence [char '-', blanks]), oneOf ["pwsh", "powershell"], char ':',
    blanks,
    opt (inSequence [set (.ofList ['|', '>']), opt (set (.ofList ['-', '+']))]), blanks]

/-- The form of the opener reads a whole line. -/
theorem form_opener :
  (ofForm opener).form = inSequence (assertion .textStart :: (openerPieces ++ [assertion .textEnd]))
  := rfl

/-- The texts of the opener are the lines that open a block. -/
theorem texts_openerPieces :
  (inSequence openerPieces).texts = opening
  := by
  have hword : ["pwsh", "powershell"] ≠ [] := nofun
  have hsign : ['|', '>'] ≠ [] := nofun
  have hmark : ['-', '+'] ≠ [] := nofun
  rw [texts_inSequence]
  simp only [openerPieces, blanks, List.map_cons, List.map_nil, List.prod_cons, List.prod_nil,
    texts_group, texts_inSequence, texts_opt, texts_oneOf hword, texts_char, texts_many_set,
    texts_set_ofList hsign, texts_set_ofList hmark, mul_one]
  simp only [opening, mul_assoc]

/-- The opener is read only at the start of a line, and only if the line opens a script block. -/
theorem matchAt_opener (hc : Cursor.start line ≤ c) :
  ((ofForm opener).matchAt c).isSome ↔ c = Cursor.start line ∧ line ∈ opening
  := by
  rw [matchAt_isSome_iff_reads, ← texts_openerPieces, form_opener]
  apply reads_textStart_textEnd _ hc
  decide

instance (line : List Char) : Decidable (line ∈ opening) :=
  decidable_of_iff (((ofForm opener).matchAt (Cursor.start line)).isSome = true) (by
    rw [matchAt_opener le_rfl]
    apply and_iff_right rfl)

example : "  - powershell: >-".toList ∈ opening := by decide

/-- A block goes on with the lines that start with white space. -/
theorem occursIn_indented :
  (ofForm indented).occursIn line ↔ startsBlank line
  := by
  have hform : (ofForm indented).form = inSequence [assertion .textStart, set .space] := rfl
  have hblank : (∃ w ∈ (inSequence [set .space]).texts, w <+: line) ↔ startsBlank line := by
    constructor
    · rintro ⟨_, ⟨x, hx, rfl⟩, rest, rfl⟩
      apply hx
    · intro h
      cases line with
      | nil => cases h
      | cons x rest => exact ⟨[x], ⟨x, h, rfl⟩, rest, rfl⟩
  rw [occursIn_iff, ← hblank]
  constructor
  · rintro ⟨d, hd, hmatch⟩
    rw [matchAt_isSome_iff_reads, hform, reads_textStart rfl hd] at hmatch
    apply hmatch.2
  · intro h
    refine ⟨Cursor.start line, le_rfl, ?_⟩
    rw [matchAt_isSome_iff_reads, hform, reads_textStart rfl le_rfl]
    exact ⟨rfl, h⟩

/-! ### The grammars of the registry -/

variable {pipeline shell : String} {s : LineState}

/-- The grammar that gets the lines of script blocks. -/
def scripts (pipeline shell : String) : Grammar :=
  if shell = pipeline then grammar pipeline shell else Shell.grammar shell

/-- The registry has two grammars, and if they have the same identifier it is that of pipeline
definitions that is found. -/
theorem get?_registry (pipeline shell id : String) :
  (registry pipeline shell).get? id =
    if pipeline = id then some (grammar pipeline shell)
    else if shell = id then some (Shell.grammar shell) else none
  := by
  have hget : (registry pipeline shell).get?
      = ((Registry.empty.insert (Shell.grammar shell)).insert (grammar pipeline shell)).get? := rfl
  rw [hget, Registry.get?_insert, Registry.get?_insert]
  rfl

theorem get?_pipeline (pipeline shell : String) :
  (registry pipeline shell).get? pipeline = some (grammar pipeline shell)
  := by rw [get?_registry, if_pos rfl]

theorem get?_scripts (pipeline shell : String) :
  (registry pipeline shell).get? shell = some (scripts pipeline shell)
  := by
  rw [get?_registry, scripts]
  by_cases h : shell = pipeline
  · rw [if_pos h.symm, if_pos h]
  · rw [if_neg (Ne.symm h), if_pos rfl, if_neg h]

/-- The only other mode of pipeline definitions hands lines to the grammar of scripts. -/
theorem embedding?_scriptBlock (pipeline shell : String) :
  (grammar pipeline shell).embedding? 1 = some ⟨shell, ofForm indented⟩
  := rfl

theorem apply_scriptBlock (pipeline shell : String) :
  (grammar pipeline shell).apply (.push scriptBlock) .root = .plain [1]
  := by
  have hindex : (grammar pipeline shell).modeIndex? scriptBlock = some 1 := rfl
  rw [Grammar.apply, hindex]
  rfl

/-- Only the opener changes the mode. -/
theorem stay_or_opener :
  ∀ r ∈ rules, r.action = .stay ∨ r.pattern = ofForm opener
  := by simp [rules]

/-- In a line that opens a block, the opener is the first rule that applies. -/
theorem exists_first?_opener (h : line ∈ opening) :
  ∃ r m, Rule.first? false (Cursor.start line) rules = some (r, m) ∧ r.action = .push scriptBlock
  := by
  obtain ⟨r, rs, hrules, hpattern, hgroup, haction⟩ : ∃ r rs, rules = r :: rs ∧
      r.pattern = ofForm opener ∧ r.group = none ∧ r.action = .push scriptBlock :=
    ⟨_, _, rfl, rfl, rfl, rfl⟩
  have hmatch : (r.matchAt (Cursor.start line)).isSome := by
    apply Rule.isSome_matchAt _ hgroup
    · rw [haction]
      nofun
    · rw [hpattern, matchAt_opener le_rfl]
      exact ⟨rfl, h⟩
  obtain ⟨m, hm⟩ := Grammar.exists_first?_cons hmatch rs
  rw [hrules]
  exact ⟨r, m, hm, haction⟩

/-- Outside of script blocks no rule changes the mode on a line that opens none. -/
theorem keeps_root (h : line ∉ opening) :
  (grammar pipeline shell).Keeps (· = .root) (Cursor.start line)
  := by
  rintro _ _ rfl ⟨⟩ r hr d hd hmatch
  rcases stay_or_opener r hr with hstay | hopener
  · rw [hstay]
    rfl
  · have hread := Rule.isSome_pattern_matchAt hmatch
    rw [hopener, matchAt_opener hd] at hread
    apply absurd hread.2 h

/-- In a script block the grammar has no rules. -/
theorem keeps_scriptBlock (c : Cursor) :
  (grammar pipeline shell).Keeps (· = .plain [1]) c
  := by
  rintro _ _ rfl hrules
  cases hrules

/-- A line of a pipeline definition enters a script block exactly if it opens one. -/
theorem endState_scanLine (pipeline shell : String) (line : List Char) :
  ((grammar pipeline shell).scanLine line .root).endState =
    if line ∈ opening then .plain [1] else .root
  := by
  rw [Grammar.scanLine_eq_plainLine]
  split
  next h =>
    obtain ⟨r, m, hfirst, haction⟩ := exists_first?_opener h
    have happly := apply_scriptBlock pipeline shell
    rw [← haction] at happly
    have hrules : (grammar pipeline shell).rules? LineState.root.mode = some rules := rfl
    cases line with
    | nil =>
      rw [Grammar.plainLine, hrules, Option.bind_some, hfirst]
      apply happly
    | cons x line =>
      rw [Grammar.plainLine, Grammar.plainScan_first rfl hrules hfirst, happly]
      apply (keeps_scriptBlock _).plainScan rfl
  next h => apply (keeps_root h).plainLine rfl

/-- A line of a shell script changes no mode. -/
theorem endState_shell (line : List Char) :
  ((Shell.grammar shell).scanLine line .root).endState = .root
  := by
  have hstay : ∀ r ∈ Shell.rules, r.action = .stay := by simp [Shell.rules]
  have hkeeps : (Shell.grammar shell).Keeps (· = .root) (Cursor.start line) := by
    rintro _ _ rfl ⟨⟩ r hr d hd hmatch
    rw [hstay r hr]
    rfl
  rw [Grammar.scanLine_eq_plainLine]
  apply hkeeps.plainLine rfl

/-! ### Lines of script blocks -/

/-- The states in script blocks.  When both grammars have the same identifier, the grammar of
pipeline definitions gets the lines of script blocks and can enter a script block in turn. -/
inductive InScript (pipeline shell : String) : LineState → Prop where
  | entered : InScript pipeline shell (.plain [1])
  | inside : InScript pipeline shell (.embedding [1] .root)
  | nested {inner : LineState} (h : shell = pipeline) (hinner : InScript pipeline shell inner) :
    InScript pipeline shell (.embedding [1] inner)

/-- A line that is scanned inside of a block leaves it in a state of the block. -/
theorem inScript_embedding (pipeline shell : String) (line : List Char) :
  InScript pipeline shell
    (.embedding [1] ((scripts pipeline shell).scanLine line .root).endState)
  := by
  rw [scripts]
  split
  next h =>
    rw [endState_scanLine]
    split
    next => exact .nested h .entered
    next => exact .inside
  next h =>
    rw [endState_shell]
    exact .inside

theorem grammar_scanLine (g : Grammar) (line : List Char) (s : LineState) :
  (g.scanLine line s).grammar = g.id
  := by cases line <;> rfl

theorem id_scripts (pipeline shell : String) :
  (scripts pipeline shell).id = shell
  := by
  rw [scripts]
  split
  next h =>
    rw [h]
    rfl
  next => rfl

/-- What becomes of a line in a script block: it is tokenized as a line of its own. -/
structure Scripted (pipeline shell : String) (line : List Char) (l : TokenizedLine) : Prop where
  grammar : l.grammar = shell
  tokens : l.tokens = ((scripts pipeline shell).scanLine line .root).tokens
  endState : InScript pipeline shell l.endState

/-- A line that a block gets first is read by the grammar of scripts in its root mode. -/
theorem scripted_root (pipeline shell : String) (line : List Char) :
  let l := (scripts pipeline shell).tokenizeLine (registry pipeline shell).get? line .root
  Scripted pipeline shell line { l with endState := .embedding [1] l.endState }
  where
  grammar := by
    apply Eq.trans (grammar_scanLine _ line .root)
    apply id_scripts
  tokens := rfl
  endState := inScript_embedding pipeline shell line

/-- A line that starts with white space is read inside of the block. -/
theorem tokenizeLine_of_startsBlank (hmode : s.mode = 1) (hblank : startsBlank line) :
  (grammar pipeline shell).tokenizeLine (registry pipeline shell).get? line s =
    let l := (scripts pipeline shell).tokenizeLine (registry pipeline shell).get? line s.inner
    { l with endState := .embedding s.stack l.endState }
  := by
  have hcontinues := occursIn_indented.mpr hblank
  have hembedding := embedding?_scriptBlock pipeline shell
  rw [← hmode] at hembedding
  rw [Grammar.tokenizeLine_continued hembedding hcontinues, get?_scripts]

/-- The recursion is on the levels of script blocks that lie in each other. -/
theorem scripted_tokenizeLine (h : InScript pipeline shell s) (hblank : startsBlank line) :
  Scripted pipeline shell line
    ((grammar pipeline shell).tokenizeLine (registry pipeline shell).get? line s)
  := by
  induction h with
  | entered =>
    rw [tokenizeLine_of_startsBlank rfl hblank]
    apply scripted_root
  | inside =>
    rw [tokenizeLine_of_startsBlank rfl hblank]
    apply scripted_root
  | nested hsame hinner ih =>
    have hself : scripts pipeline shell = grammar pipeline shell := if_pos hsame
    rw [tokenizeLine_of_startsBlank rfl hblank, hself]
    exact ⟨ih.grammar, ih.tokens, .nested hsame ih.endState⟩

/-- A line that does not start with white space leaves the script block. -/
theorem tokenizeLine_of_not_startsBlank (h : InScript pipeline shell s)
    (hblank : ¬startsBlank line) :
  (grammar pipeline shell).tokenizeLine (registry pipeline shell).get? line s
    = (grammar pipeline shell).scanLine line .root
  := by
  have hcontinues : ¬(ofForm indented).occursIn line := mt occursIn_indented.mp hblank
  have hmode : s.mode = 1 ∧ s.pop = .root := by cases h <;> exact ⟨rfl, rfl⟩
  have hembedding := embedding?_scriptBlock pipeline shell
  rw [← hmode.1] at hembedding
  rw [Grammar.tokenizeLine_left hembedding hcontinues, hmode.2]
  rfl

/-! ### Documents -/

/-- A script block is open before the line with index `i`. -/
def blockOpen (lines : List (List Char)) : (i : Nat) → Bool
  | 0 => false
  | i + 1 =>
    let line := lines.getD i []
    blockOpen lines i && startsBlank line || decide (line ∈ opening)

/-- The line with index `i` belongs to a script block. -/
def inBlock (lines : List (List Char)) (i : Nat) : Bool :=
  blockOpen lines i && startsBlank (lines.getD i [])

/-- What a document comes to before a line: a state in a script block if one is open, and the root
otherwise. -/
def Stage (pipeline shell : String) (s : LineState) : (isOpen : Bool) → Prop
  | true => InScript pipeline shell s
  | false => s = .root

/-- Outside of blocks a line opens one exactly if it is an opener. -/
theorem stage_endState_scanLine (pipeline shell : String) (line : List Char) :
  Stage pipeline shell ((grammar pipeline shell).scanLine line .root).endState (line ∈ opening)
  := by
  rw [endState_scanLine]
  by_cases h : line ∈ opening
  · rw [if_pos h, decide_eq_true h]
    exact .entered
  · rw [if_neg h, decide_eq_false h]
    rfl

/-- A line belongs to the script block that is open if it starts with white space; otherwise it is
a line of the pipeline definition. -/
theorem stage_tokenizeLine {isOpen : Bool} (h : Stage pipeline shell s isOpen) (line : List Char) :
  let l := (grammar pipeline shell).tokenizeLine (registry pipeline shell).get? line s
  if isOpen && startsBlank line then Scripted pipeline shell line l
  else l = (grammar pipeline shell).scanLine line .root
  := by
  intro l
  split
  next hinside =>
    obtain ⟨rfl, hblank⟩ := Bool.and_eq_true_iff.mp hinside
    apply scripted_tokenizeLine h hblank
  next houtside =>
    cases isOpen with
    | true => apply tokenizeLine_of_not_startsBlank h houtside
    | false =>
      obtain rfl : s = .root := h
      rfl

/-- After each line the state tells whether a block is open. -/
theorem stage_stateAfter (pipeline shell : String) (lines : List (List Char)) (i : Nat)
    (hi : i ≤ lines.length) :
  Stage pipeline shell
    ((grammar pipeline shell).stateAfter (registry pipeline shell).get? .root (lines.take i))
    (blockOpen lines i)
  := by
  induction i with
  | zero => rfl
  | succ i ih =>
    have hline : lines[i]? = some (lines.getD i []) := by
      rw [List.getD_eq_getElem?_getD, List.getElem?_eq_getElem hi, Option.getD_some]
    have hstep := stage_tokenizeLine (ih (Nat.le_of_succ_le hi)) (lines.getD i [])
    rw [Grammar.stateAfter_take_succ _ _ hline, blockOpen]
    simp only at hstep ⊢
    split at hstep
    next hinside =>
      rw [hinside, Bool.true_or]
      apply hstep.endState
    next houtside =>
      rw [Bool.eq_false_of_not_eq_true houtside, Bool.false_or, hstep]
      apply stage_endState_scanLine

/-- A document is cut into lines of script blocks and lines of pipeline definitions, and each line
has the tokens that it has as a document of its own.  What comes before a line that does not start
with white space makes no difference to it at all. -/
theorem tokenizeDocument_registry (pipeline shell text : String) :
  let r := registry pipeline shell
  let lines := Text.lines text
  ∃ ls, r.tokenizeDocument pipeline text = .ok ls ∧ ls.length = lines.length ∧
    ∀ i : Fin lines.length,
      let id := if inBlock lines i then shell else pipeline
      ∃ l alone, ls[i.val]? = some l ∧ r.tokenizeLine id lines[i] .root = .ok alone ∧
        l.grammar = id ∧ l.tokens = alone.tokens ∧ (startsBlank lines[i] ∨ l = alone)
  := by
  intro r lines
  have hpipeline : r.get? pipeline = some (grammar pipeline shell) := get?_pipeline pipeline shell
  have hscripts : r.get? shell = some (scripts pipeline shell) := get?_scripts pipeline shell
  refine ⟨_, Registry.tokenizeDocument_eq hpipeline text, Grammar.length_tokenizeLines _ _ _ _, ?_⟩
  intro i id
  have hline : lines[i.val]? = some lines[i] := List.getElem?_eq_getElem i.isLt
  have hblock : inBlock lines i = (blockOpen lines i && startsBlank lines[i]) := by
    rw [inBlock, List.getD_eq_getElem?_getD, hline, Option.getD_some]
  have hstage := stage_tokenizeLine (stage_stateAfter pipeline shell lines i i.isLt.le) lines[i]
  rw [← hblock] at hstage
  have hl := Grammar.getElem?_tokenizeLines (grammar pipeline shell) r.get? .root lines i
  rw [hline, Option.map_some] at hl
  simp only at hstage
  split at hstage
  next hinside =>
    have hid : id = shell := if_pos hinside
    rw [hid]
    rw [hblock] at hinside
    refine ⟨_, _, hl, Registry.tokenizeLine_eq hscripts _ _, hstage.grammar, hstage.tokens, ?_⟩
    left
    apply (Bool.and_eq_true_iff.mp hinside).2
  next houtside =>
    have hid : id = pipeline := if_neg houtside
    rw [hid]
    rw [hstage] at hl
    refine ⟨_, _, hl, Registry.tokenizeLine_eq hpipeline _ _, ?_, rfl, ?_⟩
    · apply grammar_scanLine
    · right
      rfl

end

/-!
## The states of script blocks

What the lines of a document leave behind is known exactly.  Outside of script blocks it is the
root.  In a script block it is a single level, or, when both grammars have the same identifier, one
level for each opener since the block was opened.
-/

variable {pipeline shell : String} {lines : List (List Char)} {line : List Char}
  {first last i : Nat}

/-! ### Levels -/

/-- As many script blocks inside each other as `k` says.  No line has been handed to the innermost
one yet if it is `fresh`; otherwise the grammar that gets its lines is at its root. -/
def chain : (k : Nat) → (fresh : Bool) → LineState
  | 0, _ => .root
  | k + 1, fresh => if k = 0 ∧ fresh then .plain [1] else .embedding [1] (chain k fresh)

theorem chain_succ {k : Nat} {fresh : Bool} (h : k = 0 → fresh = false) :
  chain (k + 1) fresh = .embedding [1] (chain k fresh)
  := by
  rw [chain, if_neg]
  rintro ⟨rfl, hfresh⟩
  rw [h rfl] at hfresh
  cases hfresh

theorem stack_chain_succ (k : Nat) (fresh : Bool) :
  (chain (k + 1) fresh).stack = [1]
  := by
  rw [chain]
  split <;> rfl

/-- Inside of the chain of states is the one that is a level shorter. -/
theorem inner_chain_succ (k : Nat) (fresh : Bool) :
  (chain (k + 1) fresh).inner = chain k fresh
  := by
  rw [chain]
  split
  next h =>
    rw [h.1]
    rfl
  next => rfl

/-- A line that starts with white space is handed in by one level. -/
theorem endState_chain_succ (k : Nat) (fresh : Bool) (hblank : startsBlank line) :
  ((grammar pipeline shell).tokenizeLine (registry pipeline shell).get? line
      (chain (k + 1) fresh)).endState =
    .embedding [1] ((scripts pipeline shell).tokenizeLine (registry pipeline shell).get? line
      (chain k fresh)).endState
  := by
  have hmode : (chain (k + 1) fresh).mode = 1 := by
    rw [LineState.mode, stack_chain_succ]
    rfl
  rw [tokenizeLine_of_startsBlank hmode hblank, inner_chain_succ, stack_chain_succ]

/-- When the grammar of pipeline definitions gets its own script blocks, a line goes through all
levels to the innermost one, and an opener adds a level there. -/
theorem endState_chain_self (k : Nat) (fresh : Bool) (hblank : startsBlank line) :
  ((grammar pipeline pipeline).tokenizeLine (registry pipeline pipeline).get? line
      (chain k fresh)).endState =
    chain (k + if line ∈ opening then 1 else 0) (line ∈ opening)
  := by
  induction k with
  | zero =>
    apply Eq.trans (endState_scanLine pipeline pipeline line)
    by_cases h : line ∈ opening <;> simp [h, chain]
  | succ k ih =>
    have hself : scripts pipeline pipeline = grammar pipeline pipeline := if_pos rfl
    rw [endState_chain_succ k fresh hblank, hself, ih, Nat.add_right_comm, chain_succ]
    intro hk
    apply decide_eq_false
    intro hopening
    simp [hopening] at hk

/-- A grammar of shell scripts stays at its root. -/
theorem endState_chain_shell (h : pipeline ≠ shell) (fresh : Bool) (hblank : startsBlank line) :
  ((grammar pipeline shell).tokenizeLine (registry pipeline shell).get? line
      (chain 1 fresh)).endState = chain 1 false
  := by
  have hshell : scripts pipeline shell = Shell.grammar shell := if_neg (Ne.symm h)
  rw [endState_chain_succ 0 fresh hblank, hshell]
  apply congrArg (LineState.embedding [1])
  apply endState_shell

/-! ### The lines of a block -/

/-- The line with index `first` opens the script block that is open behind the line with index
`last`. -/
structure Opens (lines : List (List Char)) (first last : Nat) : Prop where
  le : first ≤ last
  isOpener : lines.getD first [] ∈ opening
  outside : inBlock lines first = false
  inside : ∀ i, first < i → i ≤ last → inBlock lines i = true

/-- The number of openers among the lines between two indices, with the lines at both. -/
def openers (lines : List (List Char)) (first last : Nat) : Nat :=
  (List.range' first (last + 1 - first)).countP fun i => lines.getD i [] ∈ opening

/-- The state behind the line with index `last` of a script block that the line with index `first`
has opened. -/
def blockState (pipeline shell : String) (lines : List (List Char)) (first last : Nat) :
    LineState :=
  if pipeline = shell then chain (openers lines first last) (lines.getD last [] ∈ opening)
  else chain 1 (first = last)

/-- An opener outside of blocks opens a block. -/
theorem Opens.self (hopener : lines.getD i [] ∈ opening) (houtside : inBlock lines i = false) :
  Opens lines i i
  where
  le := le_rfl
  isOpener := hopener
  outside := houtside
  inside _ hlt hle := absurd hle (Nat.not_le.mpr hlt)

/-- A block that is open stays so up to the next line inside of it. -/
theorem Opens.succ (h : Opens lines first last) (hinside : inBlock lines (last + 1) = true) :
  Opens lines first (last + 1)
  where
  le := Nat.le_succ_of_le h.le
  isOpener := h.isOpener
  outside := h.outside
  inside i hlt hle := by
    obtain rfl | hi := Nat.eq_or_lt_of_le hle
    · apply hinside
    · apply h.inside i hlt (Nat.le_of_lt_succ hi)

theorem openers_self (lines : List (List Char)) (i : Nat) :
  openers lines i i = if lines.getD i [] ∈ opening then 1 else 0
  := by
  rw [openers, Nat.add_sub_cancel_left, List.range'_one, List.countP_singleton]
  simp only [decide_eq_true_eq]

/-- One more line counts as one more opener if it is one. -/
theorem openers_succ (lines : List (List Char)) (hle : first ≤ last + 1) :
  openers lines first (last + 1) =
    openers lines first last + if lines.getD (last + 1) [] ∈ opening then 1 else 0
  := by
  rw [openers, Nat.succ_sub hle, List.range'_1_concat, List.countP_append, Nat.add_sub_cancel' hle,
    List.countP_singleton]
  simp only [decide_eq_true_eq]
  rfl

/-- The opener itself leaves a block that no line has been handed to. -/
theorem blockState_self (hopener : lines.getD i [] ∈ opening) :
  blockState pipeline shell lines i i = .plain [1]
  := by
  rw [blockState, openers_self, if_pos hopener, decide_eq_true hopener, decide_eq_true rfl,
    ite_self]
  rfl

/-- A further line of a block takes its state on. -/
theorem endState_blockState (hle : first ≤ last)
    (hblank : startsBlank (lines.getD (last + 1) [])) :
  ((grammar pipeline shell).tokenizeLine (registry pipeline shell).get? (lines.getD (last + 1) [])
      (blockState pipeline shell lines first last)).endState =
    blockState pipeline shell lines first (last + 1)
  := by
  have hlt := Nat.lt_succ_of_le hle
  by_cases h : pipeline = shell
  · subst h
    rw [blockState, if_pos rfl, blockState, if_pos rfl, openers_succ lines hlt.le]
    apply endState_chain_self _ _ hblank
  · rw [blockState, if_neg h, blockState, if_neg h, decide_eq_false hlt.ne]
    apply endState_chain_shell h _ hblank

/-! ### Documents -/

/-- What a document comes to behind the line with index `last`: the root, or the state of the script
block that is open. -/
def Reaches (pipeline shell : String) (lines : List (List Char)) (last : Nat) (s : LineState) :
    Prop :=
  if blockOpen lines (last + 1) then
    ∃ first, Opens lines first last ∧ s = blockState pipeline shell lines first last
  else s = .root

/-- A line outside of script blocks opens one or leaves the root. -/
theorem reaches_scanLine (pipeline shell : String) (houtside : inBlock lines i = false) :
  Reaches pipeline shell lines i
    ((grammar pipeline shell).scanLine (lines.getD i []) .root).endState
  := by
  have hopen : blockOpen lines (i + 1) = decide (lines.getD i [] ∈ opening) := by
    rw [blockOpen, ← inBlock, houtside, Bool.false_or]
  rw [Reaches, hopen, endState_scanLine]
  by_cases h : lines.getD i [] ∈ opening
  · rw [if_pos h, if_pos (decide_eq_true h)]
    exact ⟨i, .self h houtside, (blockState_self h).symm⟩
  · rw [if_neg h, decide_eq_false h]
    rfl

/-- After each line the state is that of the lines so far. -/
theorem reaches_stateAfter (pipeline shell : String) (lines : List (List Char)) (i : Nat)
    (hi : i < lines.length) :
  Reaches pipeline shell lines i
    ((grammar pipeline shell).stateAfter (registry pipeline shell).get? .root (lines.take (i + 1)))
  := by
  have hline : lines[i]? = some (lines.getD i []) := by
    rw [List.getD_eq_getElem?_getD, List.getElem?_eq_getElem hi, Option.getD_some]
  have hstep := stage_tokenizeLine (stage_stateAfter pipeline shell lines i hi.le) (lines.getD i [])
  rw [Grammar.stateAfter_take_succ _ _ hline]
  cases hblock : inBlock lines i with
  | false =>
    rw [← inBlock, hblock] at hstep
    rw [hstep]
    apply reaches_scanLine pipeline shell hblock
  | true =>
    obtain ⟨hopen, hblank⟩ := Bool.and_eq_true_iff.mp hblock
    cases i with
    | zero => cases hopen
    | succ i =>
      have ih := reaches_stateAfter pipeline shell lines i (Nat.lt_of_succ_lt hi)
      rw [Reaches, if_pos hopen] at ih
      obtain ⟨first, hopens, hstate⟩ := ih
      have hopen' : blockOpen lines (i + 1 + 1) = true := by
        rw [blockOpen, ← inBlock, hblock, Bool.true_or]
      rw [Reaches, if_pos hopen', hstate, endState_blockState hopens.le hblank]
      exact ⟨first, hopens.succ hblock, rfl⟩

/-- Behind each line of a document the state is the root if no script block is open, and otherwise
that of the script block that the last line outside of script blocks has opened.  The only mode that
is ever entered is that of script blocks, which has index one. -/
theorem endState_tokenizeDocument (pipeline shell text : String) :
  let lines := Text.lines text
  (grammar pipeline shell).modeIndex? scriptBlock = some 1 ∧
    ∃ ls, (registry pipeline shell).tokenizeDocument pipeline text = .ok ls ∧
      ls.length = lines.length ∧
      ∀ i : Fin lines.length, ∃ l, ls[i.val]? = some l ∧
        if blockOpen lines (i + 1) then
          ∃ first, Opens lines first i ∧
            l.endState =
              if pipeline = shell then chain (openers lines first i) (lines[i] ∈ opening)
              else chain 1 (first = i)
        else l.endState = .root
  := by
  intro lines
  refine ⟨rfl, _, Registry.tokenizeDocument_eq (get?_pipeline pipeline shell) text,
    Grammar.length_tokenizeLines _ _ _ _, ?_⟩
  intro i
  have hline : lines[i.val]? = some lines[i] := List.getElem?_eq_getElem i.isLt
  have hl := Grammar.getElem?_tokenizeLines (grammar pipeline shell) (registry pipeline shell).get?
    .root lines i
  have hreaches := reaches_stateAfter pipeline shell lines i i.isLt
  rw [Grammar.stateAfter_take_succ _ _ hline, Reaches] at hreaches
  rw [hline, Option.map_some] at hl
  refine ⟨_, hl, ?_⟩
  have hget : lines.getD i [] = lines[i] := by
    rw [List.getD_eq_getElem?_getD, hline, Option.getD_some]
  simp only [blockState, hget] at hreaches
  apply hreaches

end Highlight.Builtin.Pipeline
