import Mathlib.Data.List.Basic
import Highlight.Proofs.Visit

/-!
# What hosts keep

The documents of a host are numbered from one on, in the order in which they were opened.  Only
documents that are there are given languages, and a document has the language that it was given
last.  The hooks run for a document in the order in which they were added.
-/

namespace Highlight

/-- The language that a hook gives to a document. -/
def Hook.assigned? : Hook → Option String
  | assign language => some language
  | install _ => none

/-- The hook that a hook adds. -/
def Hook.installed? : Hook → Option Hook
  | assign _ => none
  | install hook => some hook

namespace Host

/-- The numbers of the documents, in order. -/
def numbers (h : Host) : List Nat :=
  h.documents.map (·.number)

/-- The language that a document was given last. -/
def lastGiven? (h : Host) (number : Nat) : Option String :=
  h.assignments.reverse.lookup number

/-- What every call and every new document keeps. -/
structure Kept (h : Host) : Prop where
  numbers : h.numbers = List.range' 1 h.documents.length
  /-- Only documents that are there have been given languages. -/
  known : ∀ e ∈ h.assignments, e.1 ∈ h.numbers
  language : ∀ d ∈ h.documents, d.language = h.lastGiven? d.number

/-- The host has just been made. -/
def IsNew (h : Host) : Prop :=
  h = ready ∨ h = absent ∨ h = withoutApi

variable {h : Host} {number : Nat} {language : String}

/-- A new host is kept in order, as nothing has been done to it. -/
theorem Kept.of_isNew (hh : h.IsNew) :
  h.Kept
  := by
  obtain rfl | rfl | rfl := hh <;> exact ⟨rfl, nofun, nofun⟩

theorem Kept.load (hk : h.Kept) :
  h.load.Kept
  := ⟨hk.numbers, hk.known, hk.language⟩

/-! ### Giving a document a language -/

theorem document?_eq_none_iff :
  h.document? number = none ↔ number ∉ h.numbers
  := by simp [document?, numbers]

/-- Nothing changes if there is no document of the number. -/
theorem setLanguage_of_not_mem (hn : number ∉ h.numbers) :
  h.setLanguage number language = h
  := by rw [setLanguage, document?_eq_none_iff.mpr hn]

/-- If there is a document of the number, it gets the language, and this is put into the log. -/
theorem setLanguage_of_mem (hn : number ∈ h.numbers) :
  h.setLanguage number language =
    { h with
      documents := h.documents.map fun d =>
        if d.number = number then { d with language := some language } else d
      assignments := h.assignments ++ [(number, language)] }
  := by
  obtain ⟨d, hd⟩ := Option.ne_none_iff_exists'.mp (mt document?_eq_none_iff.mp (not_not.mpr hn))
  rw [setLanguage, hd]

theorem assignments_setLanguage (hn : number ∈ h.numbers) (language : String) :
  (h.setLanguage number language).assignments = h.assignments ++ [(number, language)]
  := by rw [setLanguage_of_mem hn]

@[simp]
theorem hooks_setLanguage (h : Host) (number : Nat) (language : String) :
  (h.setLanguage number language).hooks = h.hooks
  := by
  unfold setLanguage
  split <;> rfl

@[simp]
theorem tokenizers_setLanguage (h : Host) (number : Nat) (language : String) :
  (h.setLanguage number language).tokenizers = h.tokenizers
  := by
  unfold setLanguage
  split <;> rfl

@[simp]
theorem numbers_setLanguage (h : Host) (number : Nat) (language : String) :
  (h.setLanguage number language).numbers = h.numbers
  := by
  unfold setLanguage
  split
  next => rfl
  next =>
    unfold numbers
    rw [List.map_map]
    apply List.map_congr_left
    intro d _
    dsimp only [Function.comp]
    split <;> rfl

/-- The document that is asked for has the language given to it. -/
theorem document?_setLanguage (h : Host) (number : Nat) (language : String) :
  (h.setLanguage number language).document? number =
    (h.document? number).map ({ · with language := some language })
  := by
  unfold setLanguage
  cases hd : h.document? number with
  | none => apply hd
  | some d =>
    have hnumber : d.number = number := by simpa using List.find?_some hd
    have hsame : (fun d : Document => d.number == number) ∘ (fun d =>
        if d.number = number then { d with language := some language } else d) =
          (·.number == number) := by
      funext d
      dsimp only [Function.comp]
      split <;> rfl
    dsimp only
    rw [document?, List.find?_map, hsame, ← document?, hd, Option.map_some, if_pos hnumber]
    rfl

/-- Giving a language keeps the host in order. -/
theorem Kept.setLanguage (hk : h.Kept) (number : Nat) (language : String) :
  (h.setLanguage number language).Kept
  := by
  by_cases hn : number ∈ h.numbers
  · have hnumbers := numbers_setLanguage h number language
    have hassignments := assignments_setLanguage hn language
    refine ⟨?_, ?_, ?_⟩
    · rw [hnumbers, hk.numbers, setLanguage_of_mem hn, List.length_map]
    · rw [hassignments, hnumbers]
      intro e he
      obtain he | rfl := List.mem_append.mp he |>.imp_right List.mem_singleton.mp
      · apply hk.known e he
      · apply hn
    · intro d' hd'
      rw [setLanguage_of_mem hn] at hd'
      obtain ⟨d, hd, rfl⟩ := List.mem_map.mp hd'
      rw [lastGiven?, hassignments, List.reverse_append, List.reverse_singleton,
        List.singleton_append, List.lookup_cons]
      split
      next hnumber => simp [hnumber]
      next hnumber =>
        rw [beq_eq_false_iff_ne.mpr hnumber]
        apply hk.language d hd
  · rw [setLanguage_of_not_mem hn]
    apply hk

/-- If all documents are given the same language, it is found for those that are given one. -/
theorem lookup_of_forall {l : List (Nat × String)} (hl : ∀ e ∈ l, e.2 = language) (number : Nat) :
  l.lookup number = if number ∈ l.map Prod.fst then some language else none
  := by
  induction l with
  | nil => rfl
  | cons e l ih =>
    obtain ⟨m, language'⟩ := e
    obtain ⟨rfl, hrest⟩ := List.forall_mem_cons.mp hl
    rw [List.lookup_cons, ih hrest]
    cases hm : number == m with
    | true => simp [beq_iff_eq.mp hm]
    | false =>
      have hne := beq_eq_false_iff_ne.mp hm
      simp only [List.map_cons, List.mem_cons, hne, false_or]

/-- When all languages that have been given are the same, it is enough to know who has got one. -/
theorem Kept.language_of_forall (hk : h.Kept) (hall : ∀ e ∈ h.assignments, e.2 = language) :
  ∀ d ∈ h.documents,
    d.language = if d.number ∈ h.assignments.map Prod.fst then some language else none
  := by
  intro d hd
  have hreverse : ∀ e ∈ h.assignments.reverse, e.2 = language :=
    fun e he => hall e (List.mem_reverse.mp he)
  rw [hk.language d hd, lastGiven?, lookup_of_forall hreverse, List.map_reverse]
  simp only [List.mem_reverse]

/-! ### Hooks -/

/-- The hooks give the document their languages in order. -/
theorem assignments_runHooks (hn : number ∈ h.numbers) (hooks : List Hook) :
  (hooks.foldl (runHook number) h).assignments =
    h.assignments ++ (hooks.filterMap Hook.assigned?).map (number, ·)
  := by
  induction hooks generalizing h with
  | nil => simp
  | cons hook hooks ih =>
    rw [List.foldl_cons]
    cases hook with
    | assign language =>
      have hn' : number ∈ (h.setLanguage number language).numbers := by
        rw [numbers_setLanguage]
        apply hn
      rw [runHook, ih hn', assignments_setLanguage hn, List.append_assoc]
      rfl
    | install hook =>
      rw [ih]
      · rfl
      · apply hn

/-- The hooks that hooks install come last. -/
@[simp]
theorem hooks_runHooks (h : Host) (number : Nat) (hooks : List Hook) :
  (hooks.foldl (runHook number) h).hooks = h.hooks ++ hooks.filterMap Hook.installed?
  := by
  induction hooks generalizing h with
  | nil => simp
  | cons hook hooks ih =>
    rw [List.foldl_cons, ih]
    cases hook with
    | assign language =>
      rw [runHook, hooks_setLanguage]
      rfl
    | install hook =>
      rw [runHook, addHook, List.append_assoc]
      rfl

@[simp]
theorem numbers_runHooks (h : Host) (number : Nat) (hooks : List Hook) :
  (hooks.foldl (runHook number) h).numbers = h.numbers
  := by
  induction hooks generalizing h with
  | nil => rfl
  | cons hook hooks ih =>
    rw [List.foldl_cons, ih]
    cases hook with
    | assign language => apply numbers_setLanguage
    | install hook => rfl

/-- Running hooks keeps the host in order. -/
theorem Kept.runHooks (hk : h.Kept) (number : Nat) (hooks : List Hook) :
  (hooks.foldl (runHook number) h).Kept
  := by
  induction hooks generalizing h with
  | nil => exact hk
  | cons hook hooks ih =>
    apply ih
    cases hook with
    | assign language => apply hk.setLanguage
    | install hook => exact ⟨hk.numbers, hk.known, hk.language⟩

/-! ### New documents -/

/-- The host with a document more, before any hook has run for it. -/
def withDocument (h : Host) (text : String) : Host :=
  { h with documents := h.documents ++ [⟨h.nextNumber, text, none⟩] }

/-- A document is opened by running all hooks on it. -/
theorem openDocument_eq (h : Host) (text : String) :
  h.openDocument text = h.hooks.foldl (runHook h.nextNumber) (h.withDocument text)
  := rfl

theorem numbers_withDocument (h : Host) (text : String) :
  (h.withDocument text).numbers = h.numbers ++ [h.nextNumber]
  := List.map_append

/-- A document that is opened gets the next number. -/
@[simp]
theorem numbers_openDocument (h : Host) (text : String) :
  (h.openDocument text).numbers = h.numbers ++ [h.nextNumber]
  := by rw [openDocument_eq, numbers_runHooks, numbers_withDocument]

/-- The hooks that are there give the new document its languages. -/
theorem assignments_openDocument (h : Host) (text : String) :
  (h.openDocument text).assignments =
    h.assignments ++ (h.hooks.filterMap Hook.assigned?).map (h.nextNumber, ·)
  := by
  rw [openDocument_eq, assignments_runHooks]
  · rfl
  · simp [numbers_withDocument]

/-- A hook that is installed while a document is opened is not run on it. -/
theorem hooks_openDocument (h : Host) (text : String) :
  (h.openDocument text).hooks = h.hooks ++ h.hooks.filterMap Hook.installed?
  := by
  rw [openDocument_eq, hooks_runHooks]
  rfl

theorem Kept.withDocument (hk : h.Kept) (text : String) :
  (h.withDocument text).Kept
  where
  numbers := by
    rw [numbers_withDocument, hk.numbers, Host.withDocument, List.length_append,
      List.length_singleton, List.range'_1_concat, nextNumber, Nat.add_comm 1]
  known := by
    intro e he
    rw [numbers_withDocument]
    apply List.mem_append_left _ (hk.known e he)
  language := by
    intro d hd
    obtain hd | hd := List.mem_append.mp hd
    · apply hk.language d hd
    · -- Nothing has been given to the new document yet.
      obtain rfl := List.mem_singleton.mp hd
      symm
      apply List.lookup_eq_none_iff.mpr
      intro e he
      have hknown := hk.known e (List.mem_reverse.mp he)
      rw [hk.numbers, List.mem_range'_1] at hknown
      simp only [nextNumber, bne_iff_ne]
      omega

/-- Opening a document keeps the host in order. -/
theorem Kept.openDocument (hk : h.Kept) (text : String) :
  (h.openDocument text).Kept
  := (hk.withDocument text).runHooks h.nextNumber h.hooks

/-! ### Calls -/

/-- Each call keeps the host in order. -/
theorem Kept.perform (hk : h.Kept) (c : Call) :
  (h.perform c).Kept
  := by
  cases c with
  | isPresent | hasEditorApi | documents => exact hk
  | setTokenizer | setConfiguration | addHook => exact ⟨hk.numbers, hk.known, hk.language⟩
  | setLanguage number language => apply hk.setLanguage
  | registerLanguage language =>
    rw [Host.perform, registerLanguage]
    split
    next => exact hk
    next => exact ⟨hk.numbers, hk.known, hk.language⟩

theorem Kept.performAll (hk : h.Kept) (calls : List Call) :
  (h.performAll calls).Kept
  := by
  induction calls generalizing h with
  | nil => exact hk
  | cons c calls ih => apply ih (hk.perform c)

/-! ### Setting up the grammars -/

/-- Registering a language changes nothing but the languages. -/
theorem exists_registerLanguage (h : Host) (language : String) :
  ∃ languages, h.registerLanguage language = { h with languages }
  := by
  unfold registerLanguage
  split
  next => exact ⟨h.languages, rfl⟩
  next => exact ⟨_, rfl⟩

variable (h : Host) (a : Attachment)

/-- The calls for a language register its tokenizer and its configuration, and change nothing else
but the languages. -/
theorem exists_performAll_languageCalls (language : String) :
  ∃ languages, h.performAll (a.languageCalls language) =
    { h with
      languages
      tokenizers := (language, ⟨a.registry, language⟩) :: h.tokenizers
      configurations := (language, .hashComments) :: h.configurations }
  := by
  obtain ⟨languages, hlanguages⟩ := h.exists_registerLanguage language
  use languages
  rw [performAll, Attachment.languageCalls, List.foldl_cons, Host.perform, hlanguages]
  rfl

/-- A host that knows both languages of an attachment, besides what it knew before. -/
def knowing (languages : List String) : Host :=
  { h with
    languages
    tokenizers := (a.pipeline, ⟨a.registry, a.pipeline⟩) :: (a.shell, ⟨a.registry, a.shell⟩) ::
      h.tokenizers
    configurations := (a.pipeline, .hashComments) :: (a.shell, .hashComments) ::
      h.configurations }

/-- Setting everything up makes both languages known; besides, the first document gets its language
and a hook is added. -/
theorem exists_performAll_setup (first? : Option Nat) :
  ∃ languages, h.performAll (a.setup first?) =
    (first?.elim (h.knowing a languages) fun n =>
      (h.knowing a languages).setLanguage n a.pipeline).addHook (.assign a.pipeline)
  := by
  obtain ⟨_, hshell⟩ := h.exists_performAll_languageCalls a a.shell
  obtain ⟨languages, hpipeline⟩ :=
    (h.performAll (a.languageCalls a.shell)).exists_performAll_languageCalls a a.pipeline
  have hknown : h.performAll (a.languageCalls a.shell ++ a.languageCalls a.pipeline) =
      h.knowing a languages := by
    rw [performAll, List.foldl_append]
    apply hpipeline.trans
    rw [hshell]
    rfl
  use languages
  rw [← hknown]
  cases first? <;> rfl

/-- The setup installs one hook, which gives documents the language of pipelines. -/
theorem hooks_setup (first? : Option Nat) :
  (h.performAll (a.setup first?)).hooks = h.hooks ++ [.assign a.pipeline]
  := by
  obtain ⟨_, hsetup⟩ := h.exists_performAll_setup a first?
  rw [hsetup]
  cases first? with
  | none => rfl
  | some n => simp [addHook, knowing]

theorem numbers_setup (first? : Option Nat) :
  (h.performAll (a.setup first?)).numbers = h.numbers
  := by
  obtain ⟨_, hsetup⟩ := h.exists_performAll_setup a first?
  rw [hsetup]
  cases first? with
  | none => rfl
  | some n => apply numbers_setLanguage

/-- The setup gives the first document the language of pipelines. -/
theorem document?_setup (number : Nat) :
  (h.performAll (a.setup (some number))).document? number =
    (h.document? number).map ({ · with language := some a.pipeline })
  := by
  obtain ⟨languages, hsetup⟩ := h.exists_performAll_setup a (some number)
  rw [hsetup]
  apply document?_setLanguage (h.knowing a languages)

/-- The setup registers the tokenizers of both languages. -/
theorem tokenizers_setup (first? : Option Nat) :
  (h.performAll (a.setup first?)).tokenizers =
    (a.pipeline, ⟨a.registry, a.pipeline⟩) :: (a.shell, ⟨a.registry, a.shell⟩) :: h.tokenizers
  := by
  obtain ⟨languages, hsetup⟩ := h.exists_performAll_setup a first?
  rw [hsetup]
  cases first? with
  | none => rfl
  | some n => apply tokenizers_setLanguage (h.knowing a languages)

theorem first?_eq :
  h.first? = h.numbers.head?
  := List.head?_map.symm

/-- The first document is given the language of pipeline definitions. -/
theorem assignments_setup :
  (h.performAll (a.setup h.first?)).assignments =
    h.assignments ++ (h.first?.map (·, a.pipeline)).toList
  := by
  obtain ⟨languages, hsetup⟩ := h.exists_performAll_setup a h.first?
  rw [hsetup]
  cases hfirst : h.first? with
  | none => simp [addHook, knowing]
  | some n =>
    rw [first?_eq] at hfirst
    have hn : n ∈ (h.knowing a languages).numbers := List.mem_of_mem_head? hfirst
    apply assignments_setLanguage hn

end Host

end Highlight
