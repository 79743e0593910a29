import Mathlib.Data.List.Induction
import Mathlib.Data.List.Nodup
import Highlight.Proofs.Host
import Highlight.Proofs.Session

/-!
# What hosts remember

Anybody may call a host: the members of a session, their hooks, and others.  Whatever is called, the
host forgets nothing.  Its documents, languages, hooks and the log of the languages that documents
were given only grow at their ends, and the language of a document is always the last one that the
log has for it.
-/

namespace Highlight

theorem filterMap_cons_toList {α β : Type} (f : α → Option β) (a : α) (l : List α) :
  (a :: l).filterMap f = (f a).toList ++ l.filterMap f
  := by
  rw [List.filterMap_cons]
  cases f a <;> rfl

/-- The language that a call registers. -/
def Call.registered? : Call → Option String
  | registerLanguage language => some language
  | _ => none

namespace Host

variable {h h₁ h₂ : Host}

/-- The documents with their texts, in order, whatever their languages are. -/
def texts (h : Host) : List (Nat × String) :=
  h.documents.map fun d => (d.number, d.text)

/-- All that a host remembers stays, and what is new comes behind it. -/
structure Grows (h₁ h₂ : Host) : Prop where
  texts : h₁.texts <+: h₂.texts
  languages : h₁.languages <+: h₂.languages
  hooks : h₁.hooks <+: h₂.hooks
  assignments : h₁.assignments <+: h₂.assignments

theorem Grows.refl (h : Host) :
  h.Grows h
  := ⟨List.prefix_rfl, List.prefix_rfl, List.prefix_rfl, List.prefix_rfl⟩

/-- A host that grows twice grows. -/
theorem Grows.trans {h₃ : Host} (h : h₁.Grows h₂) (h' : h₂.Grows h₃) :
  h₁.Grows h₃
  where
  texts := h.texts.trans h'.texts
  languages := h.languages.trans h'.languages
  hooks := h.hooks.trans h'.hooks
  assignments := h.assignments.trans h'.assignments

/-! ### Giving languages and running hooks -/

@[simp]
theorem languages_setLanguage (h : Host) (number : Nat) (language : String) :
  (h.setLanguage number language).languages = h.languages
  := by
  unfold setLanguage
  split <;> rfl

@[simp]
theorem texts_setLanguage (h : Host) (number : Nat) (language : String) :
  (h.setLanguage number language).texts = h.texts
  := by
  unfold setLanguage
  split
  next => rfl
  next =>
    unfold texts
    rw [List.map_map]
    apply List.map_congr_left
    intro d _
    dsimp only [Function.comp]
    split <;> rfl

/-- The log of languages is only appended to. -/
theorem prefix_assignments_setLanguage (h : Host) (number : Nat) (language : String) :
  h.assignments <+: (h.setLanguage number language).assignments
  := by
  by_cases hn : number ∈ h.numbers
  · rw [assignments_setLanguage hn]
    apply List.prefix_append
  · simp [setLanguage_of_not_mem hn]

theorem grows_setLanguage (h : Host) (number : Nat) (language : String) :
  h.Grows (h.setLanguage number language)
  where
  texts := by simp
  languages := by simp
  hooks := by simp
  assignments := h.prefix_assignments_setLanguage number language

theorem grows_addHook (h : Host) (hook : Hook) :
  h.Grows (h.addHook hook)
  where
  texts := List.prefix_rfl
  languages := List.prefix_rfl
  hooks := List.prefix_append _ _
  assignments := List.prefix_rfl

@[simp]
theorem languages_runHooks (h : Host) (number : Nat) (hooks : List Hook) :
  (hooks.foldl (runHook number) h).languages = h.languages
  := by
  induction hooks generalizing h with
  | nil => rfl
  | cons hook hooks ih =>
    rw [List.foldl_cons, ih]
    cases hook with
    | assign language => apply languages_setLanguage
    | install hook => rfl

@[simp]
theorem texts_runHooks (h : Host) (number : Nat) (hooks : List Hook) :
  (hooks.foldl (runHook number) h).texts = h.texts
  := by
  induction hooks generalizing h with
  | nil => rfl
  | cons hook hooks ih =>
    rw [List.foldl_cons, ih]
    cases hook with
    | assign language => apply texts_setLanguage
    | install hook => rfl

/-! ### New documents -/

/-- A document that is opened is put behind the others with its text. -/
theorem texts_openDocument (h : Host) (text : String) :
  (h.openDocument text).texts = h.texts ++ [(h.nextNumber, text)]
  := by
  rw [openDocument_eq, texts_runHooks]
  apply List.map_append

theorem languages_openDocument (h : Host) (text : String) :
  (h.openDocument text).languages = h.languages
  := by
  rw [openDocument_eq, languages_runHooks]
  rfl

/-- A host grows when a document is opened. -/
theorem grows_openDocument (h : Host) (text : String) :
  h.Grows (h.openDocument text)
  where
  texts := by
    rw [texts_openDocument]
    apply List.prefix_append
  languages := by simp [languages_openDocument]
  hooks := by
    rw [hooks_openDocument]
    apply List.prefix_append
  assignments := by
    rw [assignments_openDocument]
    apply List.prefix_append

/-! ### Calls -/

/-- A language is put behind the others unless it is there. -/
theorem languages_registerLanguage (h : Host) (language : String) :
  (h.registerLanguage language).languages =
    h.languages ++ if language ∈ h.languages then [] else [language]
  := by
  rw [registerLanguage]
  split
  next => rw [List.append_nil]
  next => rfl

/-- No call changes the text of a document. -/
theorem texts_perform (h : Host) (c : Call) :
  (h.perform c).texts = h.texts
  := by
  cases c with
  | setLanguage number language => apply texts_setLanguage
  | registerLanguage language =>
    obtain ⟨languages, hlanguages⟩ := h.exists_registerLanguage language
    rw [perform, hlanguages]
    rfl
  | _ => rfl

/-- A host grows with each call. -/
theorem grows_perform (h : Host) (c : Call) :
  h.Grows (h.perform c)
  := by
  cases c with
  | setLanguage number language => apply grows_setLanguage
  | addHook hook => apply grows_addHook
  | registerLanguage language =>
    obtain ⟨languages, hlanguages⟩ := h.exists_registerLanguage language
    have hlonger := h.languages_registerLanguage language
    rw [perform]
    rw [hlanguages] at hlonger ⊢
    refine ⟨List.prefix_rfl, ?_, List.prefix_rfl, List.prefix_rfl⟩
    rw [hlonger]
    apply List.prefix_append
  | _ => exact ⟨List.prefix_rfl, List.prefix_rfl, List.prefix_rfl, List.prefix_rfl⟩

theorem texts_performAll (h : Host) (calls : List Call) :
  (h.performAll calls).texts = h.texts
  := by
  induction calls generalizing h with
  | nil => rfl
  | cons c calls ih => exact (ih (h.perform c)).trans (h.texts_perform c)

/-- A host grows with all calls. -/
theorem grows_performAll (h : Host) (calls : List Call) :
  h.Grows (h.performAll calls)
  := by
  induction calls generalizing h with
  | nil => exact .refl h
  | cons c calls ih => exact (h.grows_perform c).trans (ih (h.perform c))

/-- Only the first time that an entry occurs counts. -/
theorem eraseDups_concat (l : List String) (a : String) :
  (l ++ [a]).eraseDups = l.eraseDups ++ if a ∈ l.eraseDups then [] else [a]
  := by
  have hsingle : [a].eraseDups = [a] := by
    rw [List.eraseDups_cons, List.filter_nil, List.eraseDups_nil]
  rw [List.eraseDups_append, List.removeAll]
  by_cases ha : a ∈ l <;> simp [ha, hsingle]

/-- No element is kept twice. -/
theorem nodup_eraseDups (l : List String) :
  l.eraseDups.Nodup
  := by
  induction l using List.reverseRecOn with
  | nil => apply List.nodup_nil
  | append_singleton l a ih =>
    rw [eraseDups_concat]
    split
    next => rwa [List.append_nil]
    next ha =>
      rw [← List.concat_eq_append]
      apply ih.concat ha

variable {registered : List String}

/-- After a call the languages are those registered so far, each in the place where it came
first. -/
theorem languages_perform (hh : h.languages = registered.eraseDups) (c : Call) :
  (h.perform c).languages = (registered ++ c.registered?.toList).eraseDups
  := by
  cases c with
  | registerLanguage language =>
    apply (h.languages_registerLanguage language).trans
    rw [hh]
    symm
    apply eraseDups_concat
  | setLanguage number language =>
    apply (languages_setLanguage h number language).trans
    rw [hh]
    exact congrArg _ (List.append_nil _).symm
  | _ => exact hh.trans (congrArg _ (List.append_nil _).symm)

/-- The languages of a host are those that have been registered, in the order of their first
registration. -/
theorem languages_performAll (hh : h.languages = registered.eraseDups) (calls : List Call) :
  (h.performAll calls).languages =
    (registered ++ calls.filterMap Call.registered?).eraseDups
  := by
  induction calls generalizing h registered with
  | nil =>
    rw [List.filterMap_nil, List.append_nil]
    apply hh
  | cons c calls ih =>
    rw [filterMap_cons_toList, ← List.append_assoc]
    apply ih (languages_perform hh c)

/-! ### The log -/

/-- The language of a document is the last one that the log has for it. -/
theorem Kept.language?_eq (hk : h.Kept) (number : Nat) :
  h.language? number = h.lastGiven? number
  := by
  rw [language?]
  cases hd : h.document? number with
  | none =>
    rw [document?_eq_none_iff] at hd
    symm
    apply List.lookup_eq_none_iff.mpr
    intro e he
    apply bne_iff_ne.mpr
    rintro rfl
    apply hd (hk.known e (List.mem_reverse.mp he))
  | some d =>
    have hnumber : d.number = number := by simpa using List.find?_some hd
    rw [Option.bind_some, hk.language d (List.mem_of_find?_eq_some hd), hnumber]

/-- Nothing is in the log for a document exactly if it has been given no language. -/
theorem lastGiven?_eq_none_iff {number : Nat} :
  h.lastGiven? number = none ↔ number ∉ h.assignments.map Prod.fst
  := by
  rw [lastGiven?, List.lookup_eq_none_iff]
  simp only [List.mem_reverse, bne_iff_ne, List.mem_map, not_exists, not_and, ne_comm]

end Host

namespace Session

/-- What happens in a session whose host anybody may call. -/
inductive Act where
  | load
  | openDocument (text : String)
  /-- Somebody who is not a member calls the host. -/
  | call (c : Call)
  | poll (i : Nat)
  | attach (i : Nat)
deriving DecidableEq, Repr

namespace Act

def step : Act → Step
  | load => .load
  | openDocument text => .openDocument text
  | call c => .call c
  | poll i => .poll i
  | attach i => .attach i

/-- The text of the document that is opened. -/
def text? : Act → Option String
  | openDocument text => some text
  | _ => none

end Act

/-- The session after everything in a list has happened. -/
def afterAll (s : Session) (acts : List Act) : Session :=
  s.run (acts.map Act.step)

/-- The calls that the host gets, those of hooks apart. -/
def calls (s : Session) : Act → List Call
  | .load | .openDocument _ => []
  | .call c => [c]
  | .poll i => s.visitCalls i Attachment.poll
  | .attach i => s.visitCalls i Attachment.attach

/-- The languages that are registered, in order and as often as they are. -/
def registered (s : Session) : List Act → List String
  | [] => []
  | a :: acts => (s.calls a).filterMap Call.registered? ++ (s.step a.step).registered acts

variable {s : Session} {acts : List Act}

theorem afterAll_concat (s : Session) (acts : List Act) (a : Act) :
  s.afterAll (acts ++ [a]) = (s.afterAll acts).step a.step
  := by
  rw [afterAll, List.map_append, run, List.foldl_append]
  rfl

theorem afterAll_append (s : Session) (acts more : List Act) :
  s.afterAll (acts ++ more) = (s.afterAll acts).afterAll more
  := by
  rw [afterAll, List.map_append, run, List.foldl_append]
  rfl

/-- The languages that are registered by the last act come last. -/
theorem registered_concat (s : Session) (acts : List Act) (a : Act) :
  s.registered (acts ++ [a]) =
    s.registered acts ++ ((s.afterAll acts).calls a).filterMap Call.registered?
  := by
  induction acts generalizing s with
  | nil =>
    rw [List.nil_append, registered, registered, registered, List.append_nil, List.nil_append]
    rfl
  | cons a' acts ih =>
    rw [List.cons_append, registered, ih, registered, List.append_assoc]
    rfl

/-- What becomes of the host when something happens. -/
inductive Becomes (h : Host) (calls : List Call) (text? : Option String) (h' : Host) : Prop where
  | loads (hcalls : calls = []) (htext : text? = none) (hh : h' = h.load)
  | opens (text : String) (hcalls : calls = []) (htext : text? = some text)
      (hh : h' = h.openDocument text)
  | gets (htext : text? = none) (hh : h' = h.performAll calls)

/-- An act changes the host by its calls and by the document that it opens. -/
theorem becomes_step (s : Session) (a : Act) :
  Becomes s.host (s.calls a) a.text? (s.step a.step).host
  := by
  cases a with
  | load => exact .loads rfl rfl rfl
  | openDocument text => exact .opens text rfl rfl rfl
  | call c => exact .gets rfl rfl
  | poll i => exact .gets rfl (s.host_visit i _)
  | attach i => exact .gets rfl (s.host_visit i _)

/-- A host grows with each act. -/
theorem grows_step (s : Session) (a : Act) :
  s.host.Grows (s.step a.step).host
  := by
  cases becomes_step s a with
  | loads _ _ hh =>
    rw [hh]
    exact ⟨List.prefix_rfl, List.prefix_rfl, List.prefix_rfl, List.prefix_rfl⟩
  | opens text _ _ hh =>
    rw [hh]
    apply Host.grows_openDocument
  | gets _ hh =>
    rw [hh]
    apply Host.grows_performAll

/-- A host grows over all acts. -/
theorem grows_afterAll (s : Session) (acts : List Act) :
  s.host.Grows (s.afterAll acts).host
  := by
  induction acts generalizing s with
  | nil => exact .refl _
  | cons a acts ih => exact (s.grows_step a).trans (ih (s.step a.step))

/-- A new host is kept in order over all acts. -/
theorem kept_afterAll {h : Host} (hh : h.IsNew) (as : List Attachment) (acts : List Act) :
  ((start h as).afterAll acts).host.Kept
  := by
  induction acts using List.reverseRecOn with
  | nil => exact .of_isNew hh
  | append_singleton acts a ih =>
    rw [afterAll_concat]
    cases becomes_step ((start h as).afterAll acts) a with
    | loads _ _ hhost =>
      rw [hhost]
      apply ih.load
    | opens text _ _ hhost =>
      rw [hhost]
      apply ih.openDocument
    | gets _ hhost =>
      rw [hhost]
      apply ih.performAll

/-- The documents are those that have been opened, in order. -/
theorem texts_afterAll {h : Host} (hh : h.IsNew) (as : List Attachment) (acts : List Act) :
  ((start h as).afterAll acts).host.texts.map Prod.snd = acts.filterMap Act.text?
  := by
  induction acts using List.reverseRecOn with
  | nil => obtain rfl | rfl | rfl := hh <;> rfl
  | append_singleton acts a ih =>
    rw [afterAll_concat, List.filterMap_append, ← ih]
    cases becomes_step ((start h as).afterAll acts) a with
    | loads _ htext hhost =>
      rw [hhost, filterMap_cons_toList, htext]
      symm
      apply List.append_nil
    | opens text _ htext hhost =>
      rw [hhost, filterMap_cons_toList, htext, Host.texts_openDocument, List.map_append]
      rfl
    | gets htext hhost =>
      rw [hhost, filterMap_cons_toList, htext, Host.texts_performAll]
      symm
      apply List.append_nil

/-- The languages are those registered over all acts, each in the place where it came first. -/
theorem languages_afterAll {h : Host} (hh : h.IsNew) (as : List Attachment) (acts : List Act) :
  ((start h as).afterAll acts).host.languages = ((start h as).registered acts).eraseDups
  := by
  induction acts using List.reverseRecOn with
  | nil => obtain rfl | rfl | rfl := hh <;> rfl
  | append_singleton acts a ih =>
    rw [afterAll_concat, registered_concat]
    cases becomes_step ((start h as).afterAll acts) a with
    | loads hcalls _ hhost =>
      rw [hhost, hcalls, List.filterMap_nil, List.append_nil]
      apply ih
    | opens text hcalls _ hhost =>
      rw [hhost, hcalls, List.filterMap_nil, List.append_nil, Host.languages_openDocument]
      apply ih
    | gets _ hhost =>
      rw [hhost]
      apply Host.languages_performAll ih

/-- The documents of a host have the numbers from one on in the order in which they are opened, and
its languages are those that have been registered, in the order of their first registration.  The
log names only documents that are there, and the last entry for a document is its language.  To
give a language to a document that is not there changes nothing.  Nothing that the host remembers
ever goes away or changes its place. -/
theorem store_afterAll (h : Host) (hh : h.IsNew) (as : List Attachment) (acts : List Act) :
  let s := start h as
  let last := (s.afterAll acts).host
  last.numbers = List.range' 1 last.documents.length ∧
  last.documents.map (·.text) = acts.filterMap Act.text? ∧
  last.languages.Nodup ∧ last.languages = (s.registered acts).eraseDups ∧
  (∀ e ∈ last.assignments, e.1 ∈ last.numbers) ∧
  (∀ number, last.language? number = last.assignments.reverse.lookup number ∧
    (last.language? number = none ↔ number ∉ last.assignments.map Prod.fst)) ∧
  (∀ number ∉ last.numbers, ∀ language,
    s.afterAll (acts ++ [.call (.setLanguage number language)]) = s.afterAll acts) ∧
  ∀ more, last.Grows (s.afterAll (acts ++ more)).host
  := by
  intro s last
  have hkept : last.Kept := kept_afterAll hh as acts
  have hlanguages : last.languages = (s.registered acts).eraseDups := languages_afterAll hh as acts
  refine ⟨hkept.numbers, ?_, ?_, hlanguages, hkept.known, ?_, ?_, ?_⟩
  · rw [← texts_afterAll hh as acts, Host.texts, List.map_map]
    rfl
  · rw [hlanguages]
    apply Host.nodup_eraseDups
  · intro number
    rw [hkept.language?_eq]
    exact ⟨rfl, Host.lastGiven?_eq_none_iff⟩
  · intro number hnumber language
    rw [afterAll_concat]
    have hsame : last.setLanguage number language = last := Host.setLanguage_of_not_mem hnumber
    change Session.mk (last.setLanguage number language) _ = _
    rw [hsame]
  · intro more
    rw [afterAll_append]
    apply grows_afterAll

/-- A hook that adds hooks, a language for a document that is not there, and two members. -/
theorem store_afterAll_nested :
  let a : Attachment := { registry := .empty, pipeline := "pipeline", shell := "shell" }
  let b : Attachment := { registry := .empty, pipeline := "pipeline", shell := "other" }
  let acts : List Act :=
    [.call (.addHook (.install (.assign "late"))), .call (.registerLanguage "other"),
      .openDocument "a", .call (.setLanguage 2 "unknown"), .poll 0, .load, .openDocument "b",
      .poll 1, .poll 0, .openDocument "c"]
  let last := ((start .absent [a, b]).afterAll acts).host
  Host.absent.IsNew ∧ last.languages = ["other", "pipeline", "shell"] ∧
    last.numbers = [1, 2, 3] ∧ last.language? 3 = some "pipeline" ∧ last.hooks.length = 6 ∧
    ∀ e ∈ last.assignments, e.1 ∈ last.numbers
  := by
  intro a b acts last
  have hnew : Host.absent.IsNew := .inr (.inl rfl)
  obtain ⟨hnumbers, -, -, hlanguages, hknown, -⟩ := store_afterAll .absent hnew [a, b] acts
  refine ⟨hnew, ?_, hnumbers.trans ?_, ?_, ?_, hknown⟩
  · apply hlanguages.trans
    decide
  · decide
  · decide
  · decide

end Session

end Highlight
