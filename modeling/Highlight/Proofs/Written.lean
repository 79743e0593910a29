import Highlight.Builtin.Registry
import Highlight.Proofs.Memory
import Highlight.Proofs.Results

/-!
# The built-in grammars as they are written

The patterns of the built-in rules are written as texts, which are read when the grammars are made,
and the grammars are checked when they are registered.  No text is refused, and what is read are
the forms of the rules; no grammar is refused either.  So what is made is the built-in registry.
-/

namespace Highlight

open Pattern

/-- A rule whose pattern is a text, which is given in pieces. -/
structure WrittenRule where
  name : String
  pieces : List String
  kind : TokenKind
  group : Option Nat := none
  action : Action := .stay

namespace WrittenRule

/-- The text of the pattern. -/
def text (w : WrittenRule) : String :=
  String.join w.pieces

/-- The rule with its pattern read. -/
def read (w : WrittenRule) : Except GrammarError Rule := do
  return { ← Rule.ofText w.name w.text w.kind with group := w.group, action := w.action }

/-- The pieces write the form, which is small enough. -/
def Writes (w : WrittenRule) (f : Form) : Prop :=
  (formOf (w.pieces.flatMap String.toList)).toOption = some f ∧
    f.bytes mostBytes stateBytes false ≤ memoryLimit

instance (w : WrittenRule) (f : Form) : Decidable (w.Writes f) :=
  inferInstanceAs (Decidable (_ ∧ _))

/-- The rule with a form for its text. -/
def withForm (w : WrittenRule) (f : Form) : Rule where
  name := w.name
  pattern := ofForm f
  kind := w.kind
  group := w.group
  action := w.action

end WrittenRule

/-- A text is read as a pattern of the form that it writes, if the form is small enough. -/
theorem parse_of_formOf {text : String} {f : Form} (h : (formOf text.toList).toOption = some f)
    (hsize : f.bytes mostBytes stateBytes false ≤ memoryLimit) :
  parse text = .ok (ofForm f)
  := by
  cases hform : formOf text.toList with
  | error fault =>
    rw [hform] at h
    cases h
  | ok f' =>
    rw [hform] at h
    cases h
    rw [parse, parseForm, hform]
    dsimp only [bind, Except.bind]
    rw [if_pos (Form.fits_of_bytes_le hsize)]
    rfl

/-- A rule whose text writes a form is read as the rule with this form. -/
theorem WrittenRule.Writes.read_eq {w : WrittenRule} {f : Form} (h : w.Writes f) :
  w.read = .ok (w.withForm f)
  := by
  obtain ⟨hform, hsize⟩ := h
  rw [← String.toList_join] at hform
  rw [read, Rule.ofText, Pattern.ofText, text, parse_of_formOf hform hsize]
  rfl

namespace Grammar

/-- A grammar with rules of the root mode that are read from texts. -/
def ofWritten (id : String) (written : List WrittenRule) : Except GrammarError Grammar := do
  return (← written.mapM WrittenRule.read).foldl addRule { id }

/-- Rules that are added one after another come behind those of the root mode in order. -/
theorem foldl_addRule (g : Grammar) (rules : List Rule) :
  rules.foldl addRule g = { g with rootRules := g.rootRules ++ rules }
  := by
  induction rules generalizing g with
  | nil => simp
  | cons r rules ih =>
    rw [List.foldl_cons, ih]
    simp [addRule]

/-- If the texts write the forms, the grammar has the rules with the forms for the texts. -/
theorem ofWritten_eq {written : List WrittenRule} {forms : List Form}
    (h : List.Forall₂ WrittenRule.Writes written forms) (id : String) :
  ofWritten id written = .ok { id, rootRules := List.zipWith WrittenRule.withForm written forms }
  := by
  have hread : written.mapM WrittenRule.read
      = .ok (List.zipWith WrittenRule.withForm written forms) := by
    rw [mapM_eq_ok_iff]
    induction h with
    | nil => exact .nil
    | cons hwrites _ ih => exact .cons hwrites.read_eq ih
  rw [ofWritten, hread]
  apply congrArg Except.ok
  rw [foldl_addRule]
  rfl

end Grammar

namespace Builtin

/-- The pieces of a pattern for one of several words. -/
def oneOfPieces (words : List String) : List String :=
  words.intersperse "|"

/-! ### Shell scripts -/

namespace Shell

/-- The rules as they are written. -/
def written : List WrittenRule :=
  [{ name := "command", pieces := "(" :: oneOfPieces verbs ++ [")-[a-zA-Z]+"], kind := .type },
    { name := "keyword_control", pieces := "\\b(" :: oneOfPieces controlWords ++ [")\\b"],
      kind := .keywordControl },
    { name := "control_flow", pieces := "\\b(" :: oneOfPieces flowWords ++ [")\\b"],
      kind := .controlFlow },
    { name := "comment", pieces := ["#.*"], kind := .comment },
    { name := "string", pieces := ["\".*?\"|'.*?'"], kind := .string },
    { name := "type_annotation", pieces := ["\\[[a-zA-Z_]\\w*\\]"], kind := .type },
    { name := "variable", pieces := ["\\$[a-zA-Z_]\\w*"], kind := .variableName },
    { name := "variable_braced", pieces := ["\\$\\\x7b[a-zA-Z_]\\w*\\\x7d"],
      kind := .variableBracketed },
    { name := "subexpression", pieces := ["\\$\\([a-zA-Z_]\\w*\\)"],
      kind := .variableBracketed },
    { name := "number",
      pieces := ["(?:^|[\\s,(\\[\x7b])", "(-?\\d+(?:\\.\\d+)?)", "(?:[\\s,)\\]\x7d]|$)"],
      kind := .number, group := some 1 },
    { name := "hashtable", pieces := ["@\\\x7b[^\x7d]*\\\x7d"], kind := .object }]

/-- The texts of the patterns write the forms of the rules. -/
theorem written_writes :
  List.Forall₂ WrittenRule.Writes written (rules.map (·.pattern.form))
  := by decide +kernel

/-- The grammar under an identifier, as it is made. -/
def make (id : String) : Except GrammarError Grammar :=
  Grammar.ofWritten id written

/-- The grammar of scripts that is made has the rules of the built-in one. -/
theorem make_eq (id : String) :
  make id = .ok (grammar id)
  := Grammar.ofWritten_eq written_writes id

/-- The grammar of scripts passes its check, as no rule enters another mode. -/
theorem validate_grammar (id : String) :
  (grammar id).validate = .ok ()
  := rfl

end Shell

/-! ### Pipeline definitions -/

namespace Pipeline

/-- The rules as they are written. -/
def written : List WrittenRule :=
  [{ name := "script_opener",
      pieces := ["^(\\s*)(?:-\\s*)?", "(?:pwsh|powershell):\\s*", "(?:[|>][-+]?)?\\s*$"],
      kind := .keyword, action := .push scriptBlock },
    { name := "section", pieces := "^\\s*\\b(" :: oneOfPieces sections ++ [")\\b"],
      kind := .keyword, group := some 1 },
    { name := "list_item", pieces := "^\\s*-\\s*(" :: oneOfPieces listItems ++ [")\\b"],
      kind := .type, group := some 1 },
    { name := "property", pieces := "^\\s*(" :: oneOfPieces properties ++ [")\\b"],
      kind := .typeIdentifier, group := some 1 },
    { name := "constant", pieces := "\\b(" :: oneOfPieces constants ++ [")\\b"],
      kind := .constant },
    { name := "double_string", pieces := ["\"[^\"\\\\]*(?:\\\\.[^\"\\\\]*)*\""],
      kind := .string },
    { name := "single_string", pieces := ["'[^'\\\\]*(?:\\\\.[^'\\\\]*)*'"], kind := .string },
    { name := "comment", pieces := ["#.*"], kind := .comment },
    { name := "number",
      pieces := ["(?:^|[\\s,\\[\x7b])", "(-?\\d+(?:\\.\\d+)?)", "(?:[\\s,\\]\x7d]|$)"],
      kind := .number, group := some 1 },
    { name := "template_expression", pieces := ["\\$\\\x7b\\\x7b[^\x7d]+\\\x7d\\\x7d"],
      kind := .variableEmbedded },
    { name := "macro", pieces := ["\\$\\([\\w.]+\\)"], kind := .variableEmbedded },
    { name := "identifier", pieces := ["\\b[a-zA-Z_]\\w*\\b"], kind := .identifier }]

/-- The pattern of the lines that go on with a script block. -/
def writtenIndented : String := "^\\s"

/-- The texts of the patterns write the forms of the rules. -/
theorem written_writes :
  List.Forall₂ WrittenRule.Writes written (rules.map (·.pattern.form))
  := by decide +kernel

/-- The text for the lines of a script block writes the form for them. -/
theorem parse_writtenIndented :
  parse writtenIndented = .ok (ofForm indented)
  := parse_of_formOf (by decide +kernel) (by decide +kernel)

/-- The grammar under an identifier, as it is made. -/
def make (id shell : String) : Except GrammarError Grammar := do
  (← Grammar.ofWritten id written).embed scriptBlock shell writtenIndented

/-- The grammar of pipeline definitions that is made has the rules and the mode of the built-in
one. -/
theorem make_eq (id shell : String) :
  make id shell = .ok (grammar id shell)
  := by
  rw [make, Grammar.ofWritten_eq written_writes]
  dsimp only [bind, Except.bind]
  rw [Grammar.embed, Pattern.ofText, parse_writtenIndented]
  rfl

/-- The grammar of pipeline definitions passes its check, as the mode that its opener enters is
there. -/
theorem validate_grammar (id shell : String) :
  (grammar id shell).validate = .ok ()
  := rfl

end Pipeline

/-! ### The registry -/

/-- The registry of the built-in grammars, as it is made. -/
def make (pipeline shell : String) : Except GrammarError Registry := do
  let grammars := [← Shell.make shell, ← Pipeline.make pipeline shell]
  let r ← grammars.foldlM Registry.register .empty
  let r := ["yml", "yaml"].foldl (fun r e => r.addExtension e pipeline) r
  return ["ps1", "psm1", "psd1"].foldl (fun r e => r.addExtension e shell) r

/-- Nothing that is written in the built-in grammars is refused, whatever the identifiers. -/
theorem make_eq (pipeline shell : String) :
  make pipeline shell = .ok (registry pipeline shell)
  := by
  rw [make, Shell.make_eq, Pipeline.make_eq]
  simp only [bind, Except.bind, List.foldlM_cons, Registry.register, Shell.validate_grammar,
    Pipeline.validate_grammar]
  rfl

end Builtin

end Highlight
