import Highlight.CommandLine.Program
import Highlight.Proofs.Host
import Highlight.Proofs.Results
import Highlight.Proofs.ScriptBlock
import Highlight.Proofs.Threading

/-!
# What the program answers

The program shows a file as if its grammar had been used directly: whatever way the text takes
through the host, the watch and the languages of documents, its lines are those of the registry.
Where the program fails, the first fault counts.
-/

namespace Highlight.Program

/-! ### The host of the program -/

variable {a : Attachment}

/-- The watch ends with its first look. -/
theorem watch_eq_poll (fresh : a.isAttached = false) (c : Config) (text : String) :
  let w : Watch :=
    { attachment := a, host := Host.ready.openDocument text, interval := c.pollInterval }
  watch c a text = w.poll
  := by
  intro w
  have hpoll : a.poll w.host = _ := Attachment.poll_of_api fresh rfl rfl
  have hdue : w.due 0 = 1 := by simp [Watch.due, Watch.isRunning, w]
  have hrunning : w.poll.isRunning = false := by
    simp only [Watch.isRunning, Watch.poll, w, hpoll]
    rfl
  have hlook : w.look 0 = w.poll := by
    rw [Watch.look, if_neg (by simp [w])]
    simp only [hrunning, Bool.false_eq_true, if_false]
  calc watch c a text
      = w.ticks (w.due 0) := rfl
    _ = w.look 0 := by
      rw [hdue]
      rfl
    _ = w.poll := hlook

/-- The text is the first document of a host on which everything has been set up. -/
theorem watch_attached (fresh : a.isAttached = false) (c : Config) (text : String) :
  (watch c a text).outcome = some (.attached 1) ∧
    (watch c a text).host = (Host.ready.openDocument text).performAll (a.setup (some 1))
  := by
  have hpoll : a.poll (Host.ready.openDocument text) = _ := Attachment.poll_of_api fresh rfl rfl
  rw [watch_eq_poll fresh]
  simp only [Watch.poll, hpoll, true_and]
  rw [← Host.performAll_filter, List.filter_append, Attachment.filter_setupCalls]
  rfl

/-- The host has the text as a document in the language of pipeline definitions, and knows both
languages. -/
theorem exists_attachedHost (c : Config) (text : String) :
  let r := Builtin.registry c.pipelineGrammar c.shellGrammar
  ∃ host, attachedHost c r text = .ok host ∧
    host.document? 1 = some ⟨1, text, some c.pipelineGrammar⟩ ∧
    host.tokenizers =
      [(c.pipelineGrammar, ⟨r, c.pipelineGrammar⟩), (c.shellGrammar, ⟨r, c.shellGrammar⟩)]
  := by
  intro r
  let a : Attachment :=
    { registry := r, pipeline := c.pipelineGrammar, shell := c.shellGrammar }
  have hmake : Attachment.make r c.pipelineGrammar c.shellGrammar = .ok a := by
    rw [Attachment.make, Registry.find, Builtin.Pipeline.get?_pipeline, Registry.find,
      Builtin.Pipeline.get?_scripts]
    rfl
  obtain ⟨houtcome, hhost⟩ := watch_attached (a := a) rfl c text
  use (watch c a text).host
  constructor
  · rw [attachedHost, hmake]
    dsimp only [Except.mapError, bind, Except.bind]
    rw [houtcome]
    rfl
  · rw [hhost, Host.document?_setup, Host.tokenizers_setup]
    exact ⟨rfl, rfl⟩

/-! ### The grammar of a file -/

/-- The grammar of a file: the one that the options name, or the one for files with its extension,
or the one of pipeline definitions. -/
def grammarFor (o : Options) (c : Config) (path : String) : String :=
  (o.grammar.or ((Builtin.registry c.pipelineGrammar c.shellGrammar).detect path)).getD
    c.pipelineGrammar

/-- The grammar that is chosen is that of pipeline definitions, which needs no language, or it is
given as a language. -/
theorem chosenGrammar_cases (o : Options) (c : Config) (path : String) :
  let chosen? := chosenGrammar o c (Builtin.registry c.pipelineGrammar c.shellGrammar) path
  (chosen? = none ∧ grammarFor o c path = c.pipelineGrammar) ∨
    (chosen? = some (grammarFor o c path) ∧ grammarFor o c path ≠ c.pipelineGrammar)
  := by
  unfold chosenGrammar grammarFor
  cases o.grammar.or ((Builtin.registry c.pipelineGrammar c.shellGrammar).detect path) with
  | none => exact .inl ⟨rfl, rfl⟩
  | some id =>
    by_cases hid : id = c.pipelineGrammar
    · left
      simp [hid]
    · right
      simp [hid]

/-- Only the two identifiers of the registry are known. -/
theorem get?_eq_none_iff {pipeline shell id : String} :
  (Builtin.registry pipeline shell).get? id = none ↔ id ≠ pipeline ∧ id ≠ shell
  := by
  rw [Builtin.Pipeline.get?_registry]
  by_cases hpipeline : pipeline = id
  · simp [hpipeline]
  · by_cases hshell : shell = id
    · simp [hpipeline, hshell]
    · simp [hpipeline, hshell, Ne.symm hpipeline, Ne.symm hshell]

/-- A document whose language is the grammar of a tokenizer is tokenized with that grammar. -/
theorem tokenizeDocument_of_language {h : Host} {r : Registry} {g : Grammar} {number : Nat}
    {text id : String} (hd : h.document? number = some ⟨number, text, some id⟩)
    (ht : h.tokenizers.lookup id = some ⟨r, id⟩) (hg : r.get? id = some g) :
  (h.tokenizeDocument number).mapError ProgramError.host =
    (r.tokenizeDocument id text).mapError ProgramError.grammar
  := by
  rw [Host.tokenizeDocument_of_tokenizer hd ht, Tokenizer.tokenizeLines_eq hg,
    Registry.tokenizeDocument_eq hg]
  rfl

/-- The lines of a file are those that its grammar gives directly. -/
theorem tokenize_eq (o : Options) (c : Config) (path text : String) :
  tokenize o c path text =
    ((Builtin.registry c.pipelineGrammar c.shellGrammar).tokenizeDocument
      (grammarFor o c path) text).mapError .grammar
  := by
  obtain ⟨host, hhost, hdocument, htokenizers⟩ := exists_attachedHost c text
  rw [tokenize, hhost]
  dsimp only [bind, Except.bind]
  obtain ⟨hchosen, hgrammar⟩ | ⟨hchosen, hgrammar⟩ := chosenGrammar_cases o c path
  · -- The document keeps the language that it has got from the watch.
    rw [hchosen, hgrammar]
    apply tokenizeDocument_of_language hdocument _ (Builtin.Pipeline.get?_pipeline _ _)
    rw [htokenizers, List.lookup_cons_self]
  · rw [hchosen]
    dsimp only
    cases hg : (Builtin.registry c.pipelineGrammar c.shellGrammar).get? (grammarFor o c path) with
    | none =>
      rw [Registry.tokenizeDocument, Registry.find, hg]
      rfl
    | some g =>
      -- Besides the language of pipeline definitions, the host knows only that of shell scripts.
      have hshell : grammarFor o c path = c.shellGrammar := by
        by_contra hne
        rw [get?_eq_none_iff.mpr ⟨hgrammar, hne⟩] at hg
        cases hg
      rw [Registry.find, hg]
      apply tokenizeDocument_of_language _ _ hg
      · rw [Host.document?_setLanguage, hdocument]
        rfl
      · rw [Host.tokenizers_setLanguage, htokenizers, List.lookup_cons,
          beq_eq_false_iff_ne.mpr hgrammar, hshell]
        apply List.lookup_cons_self

/-! ### Settings -/

variable {files : String → Except FileError String} {home : Option String} {args : List String}
  {o : Options} {c : Config} {path text : String} {colors : List (TokenKind × Color)}
  {lines : List TokenizedLine} {result : Except ProgramError (List Char)}

/-- Settings are only read if their colors can be looked up. -/
theorem exists_tokenColors_parse (h : Config.parse text = .ok c) :
  ∃ colors, c.tokenColors = .ok colors
  := by
  obtain ⟨table, -, h⟩ := exists_of_bind_eq_ok h
  obtain ⟨c', -, h⟩ := exists_of_bind_eq_ok h
  obtain ⟨colors, hcolors, h⟩ := exists_of_bind_eq_ok h
  cases h
  use colors

/-- Settings from a file are only read if their colors can be looked up. -/
theorem exists_tokenColors_ofFile {required : Bool} {file : Except FileError String}
    (h : Config.ofFile required file = .ok c) :
  ∃ colors, c.tokenColors = .ok colors
  := by
  unfold Config.ofFile at h
  split at h
  next => apply exists_tokenColors_parse (eq_ok_of_mapError h)
  next =>
    split at h
    next => cases h
    next =>
      cases h
      use []
      rfl
  next => cases h

/-- The settings of the program, where reading a file twice gives the same. -/
def settings (files : String → Except FileError String) (home : Option String) (o : Options) :
    Except Config.LoadError Config :=
  Id.run (loadConfig files home o)

/-- The settings of a run have colors that can be looked up. -/
theorem exists_tokenColors_settings (h : settings files home o = .ok c) :
  ∃ colors, c.tokenColors = .ok colors
  := by
  unfold settings loadConfig at h
  split at h
  next => apply exists_tokenColors_ofFile h
  next => apply exists_tokenColors_ofFile h
  next =>
    cases h
    use []
    rfl

/-! ### The output for a file -/

/-- The output for tokenized lines: the list of their tokens, or the text, in colors unless the
settings or the options say otherwise. -/
def view (o : Options) (c : Config) (colors : List (TokenKind × Color)) (text : String)
    (lines : List TokenizedLine) : List Char :=
  if o.tokens then Terminal.dump text lines
  else
    Terminal.renderDocument (if c.color && !o.noColor then some (.ofColors colors) else none) text
      lines

/-- If the file can be read by the grammar, the output is the view of its lines. -/
theorem output_eq_view
    (hlines : (Builtin.registry c.pipelineGrammar c.shellGrammar).tokenizeDocument
      (grammarFor o c path) text = .ok lines)
    (hcolors : c.tokenColors = .ok colors) :
  output o c path text = .ok (view o c colors text lines)
  := by
  rw [output, tokenize_eq, hlines, hcolors, view]
  cases o.tokens <;> rfl

/-- If the grammar is not known, this is reported. -/
theorem output_unknown
    (h : grammarFor o c path ≠ c.pipelineGrammar ∧ grammarFor o c path ≠ c.shellGrammar)
    (text : String) :
  output o c path text = .error (.grammar (.unknownGrammar (grammarFor o c path)))
  := by
  rw [output, tokenize_eq, Registry.tokenizeDocument, Registry.find, get?_eq_none_iff.mpr h]
  rfl

/-! ### Runs of the program -/

/-- Everything that the program needs for its output can be read. -/
structure Opens (files : String → Except FileError String) (home : Option String)
    (args : List String) (o : Options) (c : Config) (path text : String) : Prop where
  options : Options.ofArguments args = .ok (.highlight o)
  settings : settings files home o = .ok c
  file : o.file = some path
  text : files path = .ok text

/-- How the program can end.  Each fault counts only if none before it is there. -/
inductive Ends (files : String → Except FileError String) (home : Option String)
    (args : List String) : Except ProgramError (List Char) → Prop where
  | options {e : OptionsError} (h : Options.ofArguments args = .error e) :
    Ends files home args (.error (.options e))
  | help (h : Options.ofArguments args = .ok .help) : Ends files home args (.ok helpText.toList)
  | version (h : Options.ofArguments args = .ok .version) :
    Ends files home args (.ok versionText.toList)
  | settings {o : Options} {e : Config.LoadError}
      (hoptions : Options.ofArguments args = .ok (.highlight o))
      (h : settings files home o = .error e) :
    Ends files home args (.error (.load e))
  | noFile {o : Options} {c : Config}
      (hoptions : Options.ofArguments args = .ok (.highlight o))
      (hsettings : Program.settings files home o = .ok c) (h : o.file = none) :
    Ends files home args (.error .noFile)
  | file {o : Options} {c : Config} {path : String} {e : FileError}
      (hoptions : Options.ofArguments args = .ok (.highlight o))
      (hsettings : Program.settings files home o = .ok c) (hfile : o.file = some path)
      (h : files path = .error e) :
    Ends files home args (.error (.file e))
  | unknown {o : Options} {c : Config} {path text : String}
      (hopens : Opens files home args o c path text)
      (h : grammarFor o c path ≠ c.pipelineGrammar ∧ grammarFor o c path ≠ c.shellGrammar) :
    Ends files home args (.error (.grammar (.unknownGrammar (grammarFor o c path))))
  | shown {o : Options} {c : Config} {path text : String} {colors : List (TokenKind × Color)}
      {lines : List TokenizedLine} (hopens : Opens files home args o c path text)
      (hcolors : c.tokenColors = .ok colors)
      (h : (Builtin.registry c.pipelineGrammar c.shellGrammar).tokenizeDocument
        (grammarFor o c path) text = .ok lines) :
    Ends files home args (.ok (view o c colors text lines))

/-- The answer of the program, where reading a file twice gives the same. -/
def answer (files : String → Except FileError String) (home : Option String)
    (args : List String) : Except ProgramError (List Char) :=
  Id.run (run files home args)

/-- If a file is to be shown, the settings are read first, then the file is, and then it is
shown. -/
theorem answer_of_highlight (h : Options.ofArguments args = .ok (.highlight o)) :
  answer files home args =
    match settings files home o, o.file with
    | .error e, _ => .error (.load e)
    | .ok _, none => .error .noFile
    | .ok c, some path =>
      match files path with
      | .error e => .error (.file e)
      | .ok text => output o c path text
  := by
  rw [answer, run, h]
  rfl

/-- If the file is opened, the answer is the output for its text. -/
theorem Opens.answer_eq (h : Opens files home args o c path text) :
  answer files home args = output o c path text
  := by simp only [answer_of_highlight h.options, h.settings, h.file, h.text]

/-- A known grammar gives the lines of the text, and the colors of the settings can be had. -/
theorem Opens.exists_view (hopens : Opens files home args o c path text)
    (h : ¬(grammarFor o c path ≠ c.pipelineGrammar ∧ grammarFor o c path ≠ c.shellGrammar)) :
  ∃ colors lines, c.tokenColors = .ok colors ∧
    (Builtin.registry c.pipelineGrammar c.shellGrammar).tokenizeDocument
      (grammarFor o c path) text = .ok lines
  := by
  obtain ⟨colors, hcolors⟩ := exists_tokenColors_settings hopens.settings
  obtain ⟨g, hg⟩ := Option.ne_none_iff_exists'.mp (mt get?_eq_none_iff.mp h)
  exact ⟨colors, _, hcolors, Registry.tokenizeDocument_eq hg text⟩

/-- The answer is one of the ends of a run. -/
theorem ends_answer (files : String → Except FileError String) (home : Option String)
    (args : List String) :
  Ends files home args (answer files home args)
  := by
  cases hoptions : Options.ofArguments args with
  | error e =>
    rw [answer, run, hoptions]
    apply Ends.options hoptions
  | ok request =>
    cases request with
    | help =>
      rw [answer, run, hoptions]
      apply Ends.help hoptions
    | version =>
      rw [answer, run, hoptions]
      apply Ends.version hoptions
    | highlight o =>
      rw [answer_of_highlight hoptions]
      split
      next e _ hsettings => apply Ends.settings hoptions hsettings
      next c hsettings hfile => apply Ends.noFile hoptions hsettings hfile
      next c path hsettings hfile =>
        split
        next e htext => apply Ends.file hoptions hsettings hfile htext
        next text htext =>
          have hopens : Opens files home args o c path text := ⟨hoptions, hsettings, hfile, htext⟩
          by_cases h : grammarFor o c path ≠ c.pipelineGrammar ∧
              grammarFor o c path ≠ c.shellGrammar
          · rw [output_unknown h]
            apply Ends.unknown hopens h
          · obtain ⟨colors, lines, hcolors, hlines⟩ := hopens.exists_view h
            rw [output_eq_view hlines hcolors]
            apply Ends.shown hopens hcolors hlines

/-- A run has only one end, which is its answer. -/
theorem Ends.answer_eq (h : Ends files home args result) :
  answer files home args = result
  := by
  cases h with
  | options h | help h | version h =>
    rw [answer, run, h]
    rfl
  | settings hoptions h => rw [answer_of_highlight hoptions, h]
  | noFile hoptions hsettings h => rw [answer_of_highlight hoptions, hsettings, h]
  | file hoptions hsettings hfile h =>
    simp only [answer_of_highlight hoptions, hsettings, hfile, h]
  | unknown hopens h => rw [hopens.answer_eq, output_unknown h]
  | shown hopens hcolors h => rw [hopens.answer_eq, output_eq_view h hcolors]

/-- Of the ways to end, the program always takes the one that applies.  Help and the version do not
need any file; the grammar is unknown exactly if it is none of those in the settings. -/
theorem answer_eq_iff_ends :
  (∀ (m : Type → Type) [Monad m] (read : String → m (Except FileError String))
    (home : Option String) (args : List String),
    (Options.ofArguments args = .ok .help →
      run read home args = pure (.ok helpText.toList)) ∧
    (Options.ofArguments args = .ok .version →
      run read home args = pure (.ok versionText.toList))) ∧
  ∀ (files : String → Except FileError String) (home : Option String) (args : List String),
    (∀ result, answer files home args = result ↔ Ends files home args result) ∧
    answer files home args ≠ .error .notAttached ∧
    ∀ o c path text, Opens files home args o c path text →
      ((∃ id, answer files home args = .error (.grammar (.unknownGrammar id))) ↔
        grammarFor o c path ≠ c.pipelineGrammar ∧ grammarFor o c path ≠ c.shellGrammar)
  := by
  constructor
  · intro m _ read home args
    constructor
    · intro h
      rw [run, h]
    · intro h
      rw [run, h]
  · intro files home args
    have hends := ends_answer files home args
    refine ⟨fun result => ⟨fun h => h ▸ hends, Ends.answer_eq⟩, ?_, ?_⟩
    · intro h
      rw [h] at hends
      cases hends
    · intro o c path text hopens
      constructor
      · rintro ⟨id, hid⟩
        by_contra h
        obtain ⟨colors, lines, hcolors, hlines⟩ := hopens.exists_view h
        rw [hopens.answer_eq, output_eq_view hlines hcolors] at hid
        cases hid
      · intro h
        use grammarFor o c path
        rw [hopens.answer_eq, output_unknown h]

/-- A script of one comment, shown in color and as a list of tokens, with the grammar of its
extension and with one that is not known. -/
theorem answer_eq_iff_ends_comment :
  let files (path : String) : Except FileError String :=
    if path = "a.ps1" then .ok "# x" else .error .missing
  answer files none ["a.ps1"] = .ok "\x1b[38;5;8m\x1b[3m# x\x1b[0m\x1b[0m\n".toList ∧
    answer files none ["-t", "a.ps1"] = .ok "1:1-4 comment shell-script \"# x\"\n".toList ∧
    (∃ id, answer files none ["-g", "other", "a.ps1"] = .error (.grammar (.unknownGrammar id))) ∧
    answer files none ["b.ps1"] = .error (.file .missing) ∧
    run (m := Id) files none ["b.ps1", "-V"] = pure (.ok versionText.toList) ∧
    run (m := Id) files none ["-h"] = pure (.ok helpText.toList)
  := by
  intro files
  have htext : files "a.ps1" = .ok "# x" := rfl
  have hcolors : ({} : Config).tokenColors = .ok [] := rfl
  have hgrammar (o : Options) (h : o.grammar = none) :
      grammarFor o {} "a.ps1" = "shell-script" := by
    rw [grammarFor, h]
    decide
  let comment : List TokenizedLine := [⟨"shell-script", [⟨0, 3, .comment⟩], .root⟩]
  have hlines (o : Options) (h : o.grammar = none) :
      (Builtin.registry "pipeline-yaml" "shell-script").tokenizeDocument
        (grammarFor o {} "a.ps1") "# x" = .ok comment := by
    rw [hgrammar o h, Registry.tokenizeDocument_eq (Builtin.Pipeline.get?_scripts _ _)]
    apply congrArg Except.ok
    decide +kernel
  have hcolored : view { file := some "a.ps1" } {} [] "# x" comment =
      "\x1b[38;5;8m\x1b[3m# x\x1b[0m\x1b[0m\n".toList := by decide +kernel
  have hlisted : view { file := some "a.ps1", tokens := true } {} [] "# x" comment =
      "1:1-4 comment shell-script \"# x\"\n".toList := by decide +kernel
  have hopens : Opens files none ["a.ps1"] { file := some "a.ps1" } {} "a.ps1" "# x" :=
    ⟨rfl, rfl, rfl, htext⟩
  have hopens' : Opens files none ["-t", "a.ps1"] { file := some "a.ps1", tokens := true } {}
      "a.ps1" "# x" := ⟨rfl, rfl, rfl, htext⟩
  let other : Options := { grammar := some "other", file := some "a.ps1" }
  obtain ⟨asked, answers⟩ := answer_eq_iff_ends
  refine ⟨?_, ?_, ?_, ?_, ?_, ?_⟩
  · rw [← hcolored]
    apply ((answers files none _).1 _).mpr
    apply Ends.shown hopens hcolors (hlines _ rfl)
  · rw [← hlisted]
    apply ((answers files none _).1 _).mpr
    apply Ends.shown hopens' hcolors (hlines _ rfl)
  · apply ((answers files none _).2.2 other {} "a.ps1" "# x" ⟨rfl, rfl, rfl, htext⟩).mpr
    decide
  · apply ((answers files none _).1 _).mpr
    apply Ends.file (o := { file := some "b.ps1" }) (c := {}) rfl rfl rfl rfl
  · apply (asked Id files none _).2 rfl
  · apply (asked Id files none _).1 rfl

end Highlight.Program
