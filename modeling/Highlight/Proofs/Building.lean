import Highlight.Grammar.Basic
import Mathlib.Data.List.Induction
import Mathlib.Data.List.Nodup

/-!
# Grammars as they are built

A grammar is built by calls that change it in place, and what such a call has changed before it
fails stays changed.  A call that adds a rule makes the mode before it is known whether the mode
takes rules.  Still no call that fails leaves anything behind, so the calls come to what the
functions on grammars give.  However a grammar is built, its first mode is the root, which has
rules, no two modes have the same name, and a mode keeps its place and its rules their order.
-/

namespace Highlight

/-- A grammar that is being built, of whose modes nothing is known. -/
structure Draft where
  id : String
  modes : List Mode
deriving DecidableEq, Repr

namespace Draft

/-- The root mode without rules. -/
def new (id : String) : Draft :=
  ⟨id, [⟨Grammar.rootName, .rules []⟩]⟩

/-- The index of the mode with a name. -/
def modeIndex? (d : Draft) (name : String) : Option Nat :=
  d.modes.findIdx? (·.name == name)

/-- Puts a mode behind the others. -/
def push (d : Draft) (m : Mode) : Draft :=
  { d with modes := d.modes ++ [m] }

/-- Puts a rule behind those of the mode with an index, if the mode has rules. -/
def pushRule? (d : Draft) (index : Nat) (r : Rule) : Option Draft :=
  match d.modes[index]? with
  | some ⟨name, .rules rs⟩ =>
    some { d with modes := d.modes.set index ⟨name, .rules (rs ++ [r])⟩ }
  | _ => none

/-- The index of the mode with a name, which is made without rules if it is not there. -/
def modeFor (d : Draft) (name : String) : Nat × Draft :=
  match d.modeIndex? name with
  | some index => (index, d)
  | none => (d.modes.length, d.push ⟨name, .rules []⟩)

/-! Each call has an answer and the draft that it leaves, also where it fails. -/

def addRule (d : Draft) (r : Rule) : Except GrammarError Unit × Draft :=
  (.ok (), (d.pushRule? 0 r).getD d)

def addRuleTo (d : Draft) (name : String) (r : Rule) : Except GrammarError Unit × Draft :=
  let (index, d) := d.modeFor name
  match d.pushRule? index r with
  | some d => (.ok (), d)
  | none => (.error (.takesNoRules d.id name), d)

/-- Adds an embedding mode with its pattern read from a text by `read`. -/
def embed (d : Draft) (name embeds continues : String)
    (read : String → Except PatternError Pattern) : Except GrammarError Unit × Draft :=
  if (d.modeIndex? name).isSome then (.error (.duplicateMode d.id name), d)
  else match Pattern.ofText (d.id ++ "." ++ name) continues read with
    | .ok pattern => (.ok (), d.push ⟨name, .embedded ⟨embeds, pattern⟩⟩)
    | .error fault => (.error fault, d)

end Draft

/-- The grammar as the calls see it. -/
def Grammar.draft (g : Grammar) : Draft :=
  ⟨g.id, g.modes⟩

/-- The arguments of a call that adds something to a grammar. -/
inductive Addition where
  /-- A rule of the root mode. -/
  | rule (r : Rule)
  | ruleTo (mode : String) (r : Rule)
  | embedding (mode embeds continues : String)
deriving DecidableEq, Repr

namespace Addition

variable (read : String → Except PatternError Pattern)

/-- The call made in place, where `read` reads the pattern of an embedding mode. -/
def call (d : Draft) : Addition → Except GrammarError Unit × Draft
  | .rule r => d.addRule r
  | .ruleTo mode r => d.addRuleTo mode r
  | .embedding mode embeds continues => d.embed mode embeds continues read

/-- The grammar with the addition. -/
def addTo (g : Grammar) : Addition → Except GrammarError Grammar
  | .rule r => .ok (g.addRule r)
  | .ruleTo mode r => g.addRuleTo mode r
  | .embedding mode embeds continues => g.embed mode embeds continues read

/-- The rule that is to be added, with the name of its mode. -/
def rule? : Addition → Option (String × Rule)
  | .rule r => some (Grammar.rootName, r)
  | .ruleTo mode r => some (mode, r)
  | .embedding _ _ _ => none

/-- The rules that are to be added to the named mode, in order. -/
def rulesFor (name : String) (as : List Addition) : List Rule :=
  ((as.filterMap rule?).filter (·.1 == name)).map (·.2)

end Addition

/-! ### Where a mode is -/

namespace Mode

/-- The first mode with a name is found among the modes, or there is none. -/
inductive Found (name : String) : List Mode → Prop where
  | absent {ms : List Mode} (h : ∀ m ∈ ms, m.name ≠ name) :
    Found name ms
  | rules {front back : List Mode} {rs : List Rule} (h : ∀ m ∈ front, m.name ≠ name) :
    Found name (front ++ ⟨name, .rules rs⟩ :: back)
  | embedded {front back : List Mode} {e : Embedding} (h : ∀ m ∈ front, m.name ≠ name) :
    Found name (front ++ ⟨name, .embedded e⟩ :: back)

/-- Either no mode has the name, or there is a first one that has it. -/
theorem found (name : String) (ms : List Mode) :
  Found name ms
  := by
  cases hfind : ms.find? (·.name == name) with
  | none =>
    apply Found.absent
    simpa using hfind
  | some m =>
    obtain ⟨hm, front, back, rfl, hfront⟩ := List.find?_eq_some_iff_append.mp hfind
    obtain ⟨mode, body⟩ := m
    obtain rfl : mode = name := by simpa using hm
    have hfront : ∀ m ∈ front, m.name ≠ mode := by simpa using hfront
    cases body with
    | rules rs => exact .rules hfront
    | embedded e => exact .embedded hfront

variable {name : String} {ms front back : List Mode} {m : Mode}

theorem findIdx?_absent (h : ∀ m ∈ ms, m.name ≠ name) :
  ms.findIdx? (·.name == name) = none
  := by simpa using h

/-- The index of the first mode with a name is the number of modes in front of it. -/
theorem findIdx?_first (h : ∀ m ∈ front, m.name ≠ name) (hm : m.name = name) :
  (front ++ m :: back).findIdx? (·.name == name) = some front.length
  := by
  rw [List.findIdx?_append, findIdx?_absent h]
  simp [List.findIdx?_cons, hm]

end Mode

namespace Grammar

variable {name : String} {r : Rule} {ms front back : List Mode}

/-- A rule for a name that no mode has makes a mode of its own, behind the others. -/
theorem addToModes?_absent (h : ∀ m ∈ ms, m.name ≠ name) :
  addToModes? name r ms = some (ms ++ [⟨name, .rules [r]⟩])
  := by
  induction ms with
  | nil => rfl
  | cons m ms ih =>
    rw [List.forall_mem_cons] at h
    rw [addToModes?, if_neg h.1, ih h.2]
    rfl

theorem addToModes?_append (h : ∀ m ∈ front, m.name ≠ name) :
  addToModes? name r (front ++ ms) = (addToModes? name r ms).map (front ++ ·)
  := by
  induction front with
  | nil => simp
  | cons m front ih =>
    rw [List.forall_mem_cons] at h
    rw [List.cons_append, addToModes?, if_neg h.1, ih h.2, Option.map_map]
    rfl

/-- A rule is put behind those of the first mode with the name. -/
theorem addToModes?_rules {rs : List Rule} (h : ∀ m ∈ front, m.name ≠ name) :
  addToModes? name r (front ++ ⟨name, .rules rs⟩ :: back) =
    some (front ++ ⟨name, .rules (rs ++ [r])⟩ :: back)
  := by
  rw [addToModes?_append h, addToModes?, if_pos rfl]
  rfl

/-- No rule is put into a mode that hands its lines over, nor into a later one. -/
theorem addToModes?_embedded {e : Embedding} (h : ∀ m ∈ front, m.name ≠ name) :
  addToModes? name r (front ++ ⟨name, .embedded e⟩ :: back) = none
  := by
  rw [addToModes?_append h, addToModes?, if_pos rfl]
  rfl

end Grammar

/-! ### Calls in place -/

namespace Draft

variable {id name : String} {r : Rule} {front back : List Mode} {m : Mode} {rs : List Rule}

/-- If no mode has the name, an empty one is put behind the others. -/
theorem modeFor_absent {d : Draft} (h : ∀ m ∈ d.modes, m.name ≠ name) :
  d.modeFor name = (d.modes.length, d.push ⟨name, .rules []⟩)
  := by rw [modeFor, modeIndex?, Mode.findIdx?_absent h]

/-- If a mode has the name, the first one is found and nothing changes. -/
theorem modeFor_first (h : ∀ m ∈ front, m.name ≠ name) (hm : m.name = name) :
  modeFor ⟨id, front ++ m :: back⟩ name = (front.length, ⟨id, front ++ m :: back⟩)
  := by rw [modeFor, modeIndex?, Mode.findIdx?_first h hm]

/-- A rule is put behind those of the mode with the index. -/
theorem pushRule?_rules :
  pushRule? ⟨id, front ++ ⟨name, .rules rs⟩ :: back⟩ front.length r =
    some ⟨id, front ++ ⟨name, .rules (rs ++ [r])⟩ :: back⟩
  := by simp [pushRule?]

theorem pushRule?_embedded {e : Embedding} :
  pushRule? ⟨id, front ++ ⟨name, .embedded e⟩ :: back⟩ front.length r = none
  := by simp [pushRule?]

/-- A mode that is made takes the rule, so a call that fails has made none. -/
theorem addRuleTo_eq (d : Draft) (name : String) (r : Rule) :
  d.addRuleTo name r =
    match Grammar.addToModes? name r d.modes with
    | some modes => (.ok (), { d with modes })
    | none => (.error (.takesNoRules d.id name), d)
  := by
  obtain ⟨id, modes⟩ := d
  have h := Mode.found name modes
  cases h with
  | absent h =>
    rw [addRuleTo, modeFor_absent h, Grammar.addToModes?_absent h]
    -- The mode has been made without rules, so it takes this one.
    dsimp only [push]
    rw [pushRule?_rules]
    rfl
  | rules h =>
    rw [addRuleTo, modeFor_first h rfl, Grammar.addToModes?_rules h]
    dsimp only
    rw [pushRule?_rules]
  | embedded h =>
    rw [addRuleTo, modeFor_first h rfl, Grammar.addToModes?_embedded h]
    dsimp only
    rw [pushRule?_embedded]

end Draft

namespace Grammar

/-- Adding a rule in place does to the draft of a grammar what adding it does to the grammar, and if
it is refused the draft is as it was. -/
theorem addRuleTo_eq (g : Grammar) (name : String) (r : Rule) :
  g.draft.addRuleTo name r =
    match g.addRuleTo name r with
    | .ok g' => (.ok (), g'.draft)
    | .error fault => (.error fault, g.draft)
  := by
  rw [Draft.addRuleTo_eq, draft, addRuleTo]
  dsimp only
  rw [modes, addToModes?]
  by_cases h : name = rootName
  · rw [if_pos h, if_pos h.symm]
    rfl
  · rw [if_neg h, if_neg (Ne.symm h)]
    cases addToModes? name r g.others <;> rfl

variable (read : String → Except PatternError Pattern)

/-- A call that fails leaves the grammar unchanged. -/
theorem call_draft (g : Grammar) (a : Addition) :
  a.call read g.draft =
    match a.addTo read g with
    | .ok g' => (.ok (), g'.draft)
    | .error fault => (.error fault, g.draft)
  := by
  cases a with
  | rule r => rfl
  | ruleTo name r => apply addRuleTo_eq
  | embedding name embeds continues =>
    rw [Addition.call, Addition.addTo, Draft.embed, embed]
    have hindex : g.draft.modeIndex? name = g.modeIndex? name := rfl
    rw [hindex]
    split
    next => rfl
    next h =>
      have hid : g.draft.id = g.id := rfl
      rw [hid]
      cases Pattern.ofText (g.id ++ "." ++ name) continues read with
      | error fault => rfl
      | ok pattern =>
        have hadd : g.addEmbedding name embeds pattern = .ok _ := if_neg h
        dsimp only [bind, Except.bind]
        rw [hadd]
        rfl

/-- The grammar with an addition, or as it was if the addition fails. -/
def add (g : Grammar) (a : Addition) : Grammar :=
  match a.addTo read g with
  | .ok g' => g'
  | .error _ => g

def addAll (g : Grammar) (as : List Addition) : Grammar :=
  as.foldl (add read) g

/-- A call leaves the draft of the grammar that adding gives. -/
theorem call_draft_snd (g : Grammar) (a : Addition) :
  (a.call read g.draft).2 = (add read g a).draft
  := by
  rw [call_draft, add]
  cases a.addTo read g <;> rfl

end Grammar

/-- The draft after calls, of which each may fail. -/
def Draft.callAll (read : String → Except PatternError Pattern) (d : Draft) (as : List Addition) :
    Draft :=
  as.foldl (fun d a => (a.call read d).2) d

/-- Calls in a row leave the draft of the grammar that adding all gives. -/
theorem Grammar.callAll_draft (read : String → Except PatternError Pattern) (g : Grammar)
    (as : List Addition) :
  g.draft.callAll read as = (addAll read g as).draft
  := by
  induction as generalizing g with
  | nil => rfl
  | cons a as ih =>
    have hstep : g.draft.callAll read (a :: as) = (a.call read g.draft).2.callAll read as := rfl
    rw [hstep, call_draft_snd, ih]
    rfl

/-! ### One addition -/

/-- What an addition makes of the modes. -/
inductive Addition.Effect (a : Addition) : List Mode → List Mode → Prop where
  | added {name : String} {r : Rule} {front back : List Mode} {rs : List Rule}
      (ha : a.rule? = some (name, r)) (hfront : ∀ m ∈ front, m.name ≠ name) :
    Effect a (front ++ ⟨name, .rules rs⟩ :: back) (front ++ ⟨name, .rules (rs ++ [r])⟩ :: back)
  | made {name : String} {r : Rule} {ms : List Mode}
      (ha : a.rule? = some (name, r)) (h : ∀ m ∈ ms, m.name ≠ name) :
    Effect a ms (ms ++ [⟨name, .rules [r]⟩])
  | embedded {name : String} {e : Embedding} {ms : List Mode}
      (ha : a.rule? = none) (h : ∀ m ∈ ms, m.name ≠ name) :
    Effect a ms (ms ++ [⟨name, .embedded e⟩])
  /-- A mode refuses a rule only if it hands its lines to another grammar. -/
  | refused {ms : List Mode}
      (ha : ∀ name r, a.rule? = some (name, r) → ∃ e, ⟨name, .embedded e⟩ ∈ ms) :
    Effect a ms ms

namespace Draft

/-- A rule goes into the first mode of its name, or into a new one behind the others, or it is
refused. -/
theorem effect_addRuleTo (d : Draft) (name : String) (r : Rule) :
  Addition.Effect (.ruleTo name r) d.modes (d.addRuleTo name r).2.modes
  := by
  rw [addRuleTo_eq]
  obtain ⟨id, modes⟩ := d
  have h := Mode.found name modes
  cases h with
  | absent h =>
    rw [Grammar.addToModes?_absent h]
    exact .made rfl h
  | rules h =>
    rw [Grammar.addToModes?_rules h]
    exact .added rfl h
  | embedded h =>
    rw [Grammar.addToModes?_embedded h]
    apply Addition.Effect.refused
    rintro _ _ ⟨⟩
    exact ⟨_, List.mem_append_right _ List.mem_cons_self⟩

/-- An embedding goes into a new mode behind the others, or it is refused. -/
theorem effect_embed (d : Draft) (name embeds continues : String)
    (read : String → Except PatternError Pattern) :
  Addition.Effect (.embedding name embeds continues) d.modes
    (d.embed name embeds continues read).2.modes
  := by
  have hkept : Addition.Effect (.embedding name embeds continues) d.modes d.modes := by
    apply Addition.Effect.refused
    rintro _ _ ⟨⟩
  rw [embed]
  split
  next => exact hkept
  next h =>
    split
    next =>
      apply Addition.Effect.embedded rfl
      simpa [modeIndex?] using h
    next => exact hkept

end Draft

/-- What is added has the effect of an addition on the modes. -/
theorem Grammar.effect_add (read : String → Except PatternError Pattern) (g : Grammar)
    (a : Addition) :
  a.Effect g.modes (add read g a).modes
  := by
  have h : (add read g a).modes = (a.call read g.draft).2.modes := by rw [call_draft_snd, draft]
  rw [h]
  cases a with
  | rule r =>
    have hfront : ∀ m ∈ ([] : List Mode), m.name ≠ rootName := nofun
    apply Addition.Effect.added rfl hfront
  | ruleTo name r => apply Draft.effect_addRuleTo g.draft
  | embedding name embeds continues => apply Draft.effect_embed g.draft

/-- A mode keeps its place. -/
theorem Addition.Effect.isPrefix_names {a : Addition} {ms ms' : List Mode} (h : a.Effect ms ms') :
  ms.map (·.name) <+: ms'.map (·.name)
  := by
  cases h with
  | added => simp
  | made => simp
  | embedded => simp
  | refused => apply List.prefix_rfl

/-! ### All additions -/

/-- The modes that additions leave, whatever they are. -/
structure Built (as : List Addition) (ms : List Mode) : Prop where
  nodup : (ms.map (·.name)).Nodup
  rules : ∀ m ∈ ms, ∀ rs, m.body = .rules rs → rs = Addition.rulesFor m.name as
  /-- A rule that is added has a mode. -/
  absent : ∀ name ∉ ms.map (·.name), Addition.rulesFor name as = []

namespace Addition

variable {a : Addition} {as : List Addition} {name : String}

/-- A rule for a mode is the last one that is given for it. -/
theorem rulesFor_concat_of_eq {r : Rule} (h : a.rule? = some (name, r)) :
  rulesFor name (as ++ [a]) = rulesFor name as ++ [r]
  := by simp [rulesFor, h]

theorem rulesFor_concat_of_ne (h : ∀ r, a.rule? ≠ some (name, r)) :
  rulesFor name (as ++ [a]) = rulesFor name as
  := by
  cases ha : a.rule? with
  | none => simp [rulesFor, ha]
  | some p =>
    have hne : p.1 ≠ name := by
      rintro rfl
      exact h p.2 ha
    simp [rulesFor, ha, hne]

/-- A rule for one mode changes nothing for the others. -/
theorem rulesFor_concat_of_other {r : Rule} {n : String} (h : a.rule? = some (name, r))
    (hn : n ≠ name) :
  rulesFor n (as ++ [a]) = rulesFor n as
  := by
  apply rulesFor_concat_of_ne
  intro r' hr'
  cases h.symm.trans hr'
  exact hn rfl

end Addition

namespace Built

open Addition

variable {a : Addition} {as : List Addition} {ms ms' : List Mode} {m : Mode} {name : String}
  {r : Rule}

/-- A mode that is made is the only one with its name, and has the rules added so far, if any. -/
theorem concat (hms : Built as ms) (h : ∀ m' ∈ ms, m'.name ≠ m.name)
    (hother : ∀ name ≠ m.name, rulesFor name (as ++ [a]) = rulesFor name as)
    (hm : ∀ rs, m.body = .rules rs → rs = rulesFor m.name (as ++ [a])) :
  Built (as ++ [a]) (ms ++ [m])
  := by
  constructor
  case nodup =>
    rw [List.map_append, List.map_cons, List.map_nil, List.nodup_append]
    refine ⟨hms.nodup, List.nodup_singleton _, ?_⟩
    simpa using h
  case rules =>
    intro m' hm' rs hrs
    rw [List.mem_append, List.mem_singleton] at hm'
    obtain hm' | rfl := hm'
    · rw [hother _ (h m' hm')]
      exact hms.rules m' hm' rs hrs
    · exact hm rs hrs
  case absent =>
    intro name hname
    rw [List.map_append, List.mem_append, not_or] at hname
    obtain ⟨hname, hne⟩ := hname
    rw [hother name (by simpa using hne)]
    exact hms.absent name hname

/-- If the last addition is a rule, and it is put behind the rules of the first mode of its name,
the modes are built from all additions. -/
theorem added {front back : List Mode} {rs : List Rule}
    (hms : Built as (front ++ ⟨name, .rules rs⟩ :: back)) (ha : a.rule? = some (name, r)) :
  Built (as ++ [a]) (front ++ ⟨name, .rules (rs ++ [r])⟩ :: back)
  := by
  have hnames : (front ++ ⟨name, .rules (rs ++ [r])⟩ :: back).map (·.name) =
      (front ++ ⟨name, .rules rs⟩ :: back).map (·.name) := by simp
  have hnodup := hms.nodup
  rw [List.map_append, List.map_cons, List.nodup_middle, List.nodup_cons, ← List.map_append]
    at hnodup
  have hother : ∀ m ∈ front ++ back, ∀ rs', m.body = .rules rs' →
      rs' = rulesFor m.name (as ++ [a]) := by
    intro m hm rs' hrs'
    have hne : m.name ≠ name := by
      rintro rfl
      exact hnodup.1 (List.mem_map.mpr ⟨m, hm, rfl⟩)
    rw [rulesFor_concat_of_other ha hne]
    apply hms.rules m _ rs' hrs'
    rw [List.mem_append] at hm ⊢
    exact hm.imp_right (List.mem_cons_of_mem _)
  constructor
  case nodup =>
    rw [hnames]
    exact hms.nodup
  case rules =>
    intro m hm rs' hrs'
    rw [List.mem_append, List.mem_cons] at hm
    obtain hm | rfl | hm := hm
    · exact hother m (List.mem_append_left _ hm) rs' hrs'
    · cases hrs'
      rw [rulesFor_concat_of_eq ha, hms.rules ⟨name, .rules rs⟩ (by simp) rs rfl]
    · exact hother m (List.mem_append_right _ hm) rs' hrs'
  case absent =>
    intro n hn
    have hne : n ≠ name := by
      rintro rfl
      simp at hn
    rw [rulesFor_concat_of_other ha hne]
    rw [hnames] at hn
    exact hms.absent n hn

/-- If a rule is refused as the mode of its name hands its lines over, the modes are built from all
additions as well. -/
theorem refused (hms : Built as ms)
    (ha : ∀ name r, a.rule? = some (name, r) → ∃ e, ⟨name, .embedded e⟩ ∈ ms) :
  Built (as ++ [a]) ms
  := by
  constructor
  case nodup => exact hms.nodup
  case rules =>
    intro m hm rs hrs
    rw [rulesFor_concat_of_ne]
    · exact hms.rules m hm rs hrs
    · intro r hr
      -- No other mode has the name, and this one has no rules.
      obtain ⟨e, he⟩ := ha _ r hr
      have h := List.inj_on_of_nodup_map hms.nodup hm he rfl
      rw [h] at hrs
      cases hrs
  case absent =>
    intro name hname
    rw [rulesFor_concat_of_ne]
    · exact hms.absent name hname
    · intro r hr
      obtain ⟨e, he⟩ := ha _ r hr
      exact hname (List.mem_map_of_mem he)

/-- One more addition with its effect keeps the modes built from what has been added. -/
theorem step (hms : Built as ms) (h : a.Effect ms ms') :
  Built (as ++ [a]) ms'
  := by
  cases h with
  | added ha _ => exact hms.added ha
  | @made name r _ ha h =>
    apply hms.concat h
    · exact fun n hn => rulesFor_concat_of_other ha hn
    · rintro rs ⟨⟩
      rw [rulesFor_concat_of_eq ha, hms.absent name (by simpa using h)]
      rfl
  | embedded ha h =>
    apply hms.concat h
    · exact fun n _ => rulesFor_concat_of_ne (by simp [ha])
    · rintro rs ⟨⟩
  | refused ha => exact hms.refused ha

end Built

namespace Grammar

variable (read : String → Except PatternError Pattern) (g : Grammar) (as bs : List Addition)

theorem addAll_concat (a : Addition) :
  addAll read g (as ++ [a]) = add read (addAll read g as) a
  := by
  rw [addAll, List.foldl_append]
  rfl

theorem addAll_append :
  addAll read g (as ++ bs) = addAll read (addAll read g as) bs
  := List.foldl_append

/-- The modes of a grammar that is made by additions are built from them. -/
theorem built_addAll (id : String) :
  Built as (addAll read { id } as).modes
  := by
  induction as using List.reverseRec with
  | nil =>
    constructor
    case nodup => apply List.nodup_singleton
    case rules =>
      intro m hm rs hrs
      obtain rfl := List.mem_singleton.mp hm
      cases hrs
      rfl
    case absent => exact fun name _ => rfl
  | append_singleton as a ih =>
    rw [addAll_concat]
    apply ih.step
    apply effect_add

/-- Additions keep the names of the modes in place, and only put new ones behind them. -/
theorem isPrefix_names_addAll :
  g.modes.map (·.name) <+: (addAll read g as).modes.map (·.name)
  := by
  induction as generalizing g with
  | nil => apply List.prefix_rfl
  | cons a as ih => exact (effect_add read g a).isPrefix_names.trans (ih (add read g a))

/-- If no two modes have the same name, a mode is found at its place. -/
theorem modeIndex?_of_names {i : Nat} {name : String} (hnodup : (g.modes.map (·.name)).Nodup)
    (h : (g.modes.map (·.name))[i]? = some name) :
  g.modeIndex? name = some i
  := by
  have hindex : g.modeIndex? name = (g.modes.map (·.name)).findIdx? (· == name) := by
    rw [List.findIdx?_map]
    rfl
  obtain ⟨hi, rfl⟩ := List.getElem?_eq_some_iff.mp h
  rw [hindex, List.findIdx?_eq_some_iff_getElem]
  refine ⟨hi, beq_self_eq_true _, ?_⟩
  intro j hj
  rw [beq_iff_eq, hnodup.getElem_inj_iff]
  omega

/-- A mode keeps its index. -/
theorem modeIndex?_addAll {i : Nat} {m : Mode} (id : String)
    (h : (addAll read { id } as).mode? i = some m) :
  (addAll read { id } (as ++ bs)).modeIndex? m.name = some i
  := by
  apply modeIndex?_of_names
  · exact (built_addAll read _ id).nodup
  · have hname : ((addAll read { id } as).modes.map (·.name))[i]? = some m.name := by
      rw [List.getElem?_map]
      exact congrArg (Option.map _) h
    obtain ⟨hi, hname⟩ := List.getElem?_eq_some_iff.mp hname
    rw [addAll_append, ← hname]
    apply List.prefix_iff_getElem?.mp (isPrefix_names_addAll read _ bs) i hi

end Grammar

end Highlight
