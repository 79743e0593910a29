import Highlight.Proofs.Store

/-!
# Opening documents

The hooks that are there when a document is opened run for it, one after another, and no others do.
What they add runs for the documents after it: so the hooks become more with each document, but only
by as many as add hooks.
-/

namespace Highlight

/-- The hook gives a document a language, or adds a hook that does. -/
inductive Hook.Shallow : Hook → Prop where
  | assign (language : String) : Shallow (.assign language)
  | install (language : String) : Shallow (.install (.assign language))

namespace Host

variable {h : Host} {text : String} {number : Nat} {ran : List Hook}

/-! ### One document -/

/-- The host when the first `i` of its hooks have run for a new document. -/
def opening (h : Host) (text : String) (i : Nat) : Host :=
  (h.hooks.take i).foldl (runHook h.nextNumber) (h.withDocument text)

/-- The next hook is run on the document as the hooks before it leave it. -/
theorem opening_succ (h : Host) (text : String) (i : Fin h.hooks.length) :
  h.opening text (i + 1) = (h.opening text i).runHook h.nextNumber h.hooks[i]
  := by
  have htake : h.hooks.take (i + 1) = h.hooks.take i ++ [h.hooks[i]] :=
    (List.take_append_getElem i.isLt).symm
  rw [opening, htake, List.foldl_append]
  rfl

/-- When all hooks have run, the document is open. -/
theorem opening_length (h : Host) (text : String) :
  h.opening text h.hooks.length = h.openDocument text
  := by
  rw [opening, List.take_length]
  rfl

theorem numbers_opening (h : Host) (text : String) (i : Nat) :
  (h.opening text i).numbers = h.numbers ++ [h.nextNumber]
  := by rw [opening, numbers_runHooks, numbers_withDocument]

/-- The next number is new. -/
theorem Kept.nextNumber_not_mem (hk : h.Kept) :
  h.nextNumber ∉ h.numbers
  := by
  rw [hk.numbers, List.mem_range'_1, nextNumber]
  omega

/-- Of the languages that one document is given, the last one is the latest entry. -/
theorem lookup_reverse_map (number : Nat) (languages : List String) :
  (languages.map (number, ·)).reverse.lookup number = languages.getLast?
  := by
  cases languages using List.reverseRecOn with
  | nil => rfl
  | append_singleton languages language => simp

/-- A new document has the language that the last of the hooks gives to it. -/
theorem Kept.language?_openDocument (hk : h.Kept) (text : String) :
  (h.openDocument text).language? h.nextNumber = (h.hooks.filterMap Hook.assigned?).getLast?
  := by
  have hnone : h.assignments.reverse.lookup h.nextNumber = none := by
    apply List.lookup_eq_none_iff.mpr
    intro e he
    apply bne_iff_ne.mpr
    rintro heq
    apply hk.nextNumber_not_mem
    rw [heq]
    apply hk.known e (List.mem_reverse.mp he)
  rw [(hk.openDocument text).language?_eq, lastGiven?, assignments_openDocument,
    List.reverse_append, List.lookup_append, lookup_reverse_map, hnone, Option.or_none]

/-! ### One document after another -/

/-- What hooks add gives languages, and adds nothing more. -/
theorem filterMap_installed?_of_shallow {hooks : List Hook}
    (hshallow : ∀ hook ∈ hooks, hook.Shallow) :
  ∀ hook ∈ hooks.filterMap Hook.installed?, ∃ language, hook = .assign language
  := by
  intro hook hhook
  obtain ⟨outer, houter, hinstalled⟩ := List.mem_filterMap.mp hhook
  cases hshallow outer houter with
  | assign language => cases hinstalled
  | install language =>
    cases hinstalled
    exact ⟨language, rfl⟩

/-- Each document adds as many hooks as the first one. -/
theorem hooks_openAll (hshallow : ∀ hook ∈ h.hooks, hook.Shallow) (texts : List String) :
  (texts.foldl openDocument h).hooks =
    h.hooks ++ (List.replicate texts.length (h.hooks.filterMap Hook.installed?)).flatten
  := by
  induction texts generalizing h with
  | nil => simp
  | cons text texts ih =>
    have hassign := filterMap_installed?_of_shallow hshallow
    have hnone : (h.hooks.filterMap Hook.installed?).filterMap Hook.installed? = [] := by
      apply List.filterMap_eq_nil_iff.mpr
      intro hook hhook
      obtain ⟨language, rfl⟩ := hassign hook hhook
      rfl
    have hsame : (h.openDocument text).hooks.filterMap Hook.installed? =
        h.hooks.filterMap Hook.installed? := by
      rw [hooks_openDocument, List.filterMap_append, hnone, List.append_nil]
    have hshallow' : ∀ hook ∈ (h.openDocument text).hooks, hook.Shallow := by
      intro hook hhook
      rw [hooks_openDocument] at hhook
      rcases List.mem_append.mp hhook with hhook | hhook
      · apply hshallow hook hhook
      · obtain ⟨language, rfl⟩ := hassign hook hhook
        exact .assign language
    rw [List.foldl_cons, ih hshallow', hsame, hooks_openDocument, List.length_cons,
      List.replicate_succ, List.flatten_cons, List.append_assoc]

end Host

namespace Session

/-- Opening documents one after another opens each in the host that the ones before leave. -/
theorem host_afterAll_openDocument (s : Session) (texts : List String) :
  (s.afterAll (texts.map .openDocument)).host = texts.foldl Host.openDocument s.host
  := by
  induction texts generalizing s with
  | nil => rfl
  | cons text texts ih => apply ih (s.step (.openDocument text))

/-- What becomes of the hooks when documents are opened.  The new document is there before any hook
runs for it.  The hooks that are there then run for it one after another, and what they add waits
for the documents after it.  So the log gets an entry for each hook that gives a language, in their
order, the document has the language of the last one, and each document leaves as many more hooks
as there are hooks that add one. -/
theorem hooks_afterAll (h₀ : Host) (hh : h₀.IsNew) (as : List Attachment) (acts : List Act)
    (hshallow : ∀ hook ∈ ((start h₀ as).afterAll acts).host.hooks, hook.Shallow) (text : String) :
  let s := start h₀ as
  let h := (s.afterAll acts).host
  let opened := (s.afterAll (acts ++ [.openDocument text])).host
  let n := h.nextNumber
  let assigned := h.hooks.filterMap Hook.assigned?
  let installed := h.hooks.filterMap Hook.installed?
  (n ∉ h.numbers ∧ h.opening text 0 = h.withDocument text ∧
    (∀ i : Fin h.hooks.length,
      h.opening text (i + 1) = (h.opening text i).runHook n h.hooks[i]) ∧
    opened = h.opening text h.hooks.length ∧
    ∀ i, (h.opening text i).numbers = h.numbers ++ [n]) ∧
  opened.hooks = h.hooks ++ installed ∧
  (∀ hook ∈ installed, ∃ language, hook = .assign language) ∧
  opened.assignments = h.assignments ++ assigned.map (n, ·) ∧
  opened.language? n = assigned.getLast? ∧
  (∀ more text',
    let later := (s.afterAll (acts ++ [.openDocument text] ++ more)).host
    ∃ others, later.hooks = h.hooks ++ installed ++ others ∧
      (later.openDocument text').assignments = later.assignments ++
        ((h.hooks ++ installed ++ others).filterMap Hook.assigned?).map (later.nextNumber, ·)) ∧
  ∀ texts : List String, (s.afterAll (acts ++ texts.map .openDocument)).host.hooks.length =
    h.hooks.length + texts.length * h.hooks.countP (·.installed?.isSome)
  := by
  intro s h opened n assigned installed
  have hkept : h.Kept := kept_afterAll hh as acts
  have hopened : opened = h.openDocument text := by
    simp only [opened]
    rw [afterAll_concat]
    rfl
  have hhooks : opened.hooks = h.hooks ++ installed := by
    rw [hopened]
    apply Host.hooks_openDocument
  refine ⟨⟨hkept.nextNumber_not_mem, rfl, h.opening_succ text, ?_, h.numbers_opening text⟩, hhooks,
    Host.filterMap_installed?_of_shallow hshallow, ?_, ?_, ?_, ?_⟩
  · rw [hopened, Host.opening_length]
  · rw [hopened]
    apply Host.assignments_openDocument
  · rw [hopened]
    apply hkept.language?_openDocument
  · intro more text' later
    have hgrows : opened.Grows later := by
      simp only [later]
      rw [afterAll_append]
      apply grows_afterAll
    obtain ⟨others, hothers⟩ := hgrows.hooks
    rw [hhooks] at hothers
    refine ⟨others, hothers.symm, ?_⟩
    rw [Host.assignments_openDocument, ← hothers]
  · intro texts
    rw [afterAll_append, host_afterAll_openDocument, Host.hooks_openAll hshallow,
      List.length_append, List.length_flatten, List.map_replicate, List.sum_replicate_nat,
      List.length_filterMap_eq_countP]

theorem hooks_afterAll_nested :
  let acts : List Act :=
    [.call (.addHook (.assign "first")), .call (.addHook (.install (.assign "late"))),
      .openDocument "a"]
  let h := ((start .ready []).afterAll acts).host
  let opened := ((start .ready []).afterAll (acts ++ [.openDocument "b"])).host
  Host.ready.IsNew ∧ (∀ hook ∈ h.hooks, hook.Shallow) ∧ h.language? 1 = some "first" ∧
    opened.language? 2 = some "late" ∧
    ((start .ready []).afterAll (acts ++ ["b", "c", "d"].map .openDocument)).host.hooks.length = 6
  := by
  intro acts h opened
  have hnew : Host.ready.IsNew := .inl rfl
  have hhooks : h.hooks = [.assign "first", .install (.assign "late"), .assign "late"] := by decide
  have hshallow : ∀ hook ∈ h.hooks, hook.Shallow := by
    rw [hhooks]
    simp only [List.forall_mem_cons]
    exact ⟨.assign _, .install _, .assign _, nofun⟩
  obtain ⟨-, -, -, -, hlanguage, -, hlength⟩ :=
    hooks_afterAll .ready hnew [] acts hshallow "b"
  refine ⟨hnew, hshallow, by decide, hlanguage.trans ?_, (hlength ["b", "c", "d"]).trans ?_⟩
  · decide
  · decide

end Session

end Highlight
