import Highlight.Builtin.Pieces
import Highlight.Grammar.Basic

/-!
# The grammar of pipeline definitions

Section names, the kinds of list items and known properties at the start of a line, and
constants, strings, comments, numbers, template expressions, macros and identifiers anywhere.
A line that opens a script block hands the lines after it to the grammar of shell scripts for as
long as they are indented.
-/

namespace Highlight.Builtin.Pipeline

open Pattern Pattern.Form CharSet

/-- The words that start a section. -/
def sections : List String :=
  ["trigger", "pool", "steps", "stages", "jobs", "parameters", "variables", "schedules",
    "resources", "extends", "pr", "pipelines", "source", "tags", "repositories", "containers",
    "name", "services", "strategy", "matrix", "demands", "vmImage", "parallel", "deployment",
    "lifecycle", "hook", "environment", "runOnce", "canary", "rolling", "queue"]

/-- The words that start a list item. -/
def listItems : List String :=
  ["template", "dependsOn", "checkout", "task", "workspace", "name", "download", "upload",
    "publish", "group", "path", "artifact", "secure", "object", "string", "number", "boolean",
    "step", "script", "bash", "python", "node", "deployment"]

/-- The words that name a property. -/
def properties : List String :=
  ["value", "default", "values", "displayName", "timeoutInMinutes", "retryCountOnTaskFailure",
    "failOnStderr", "continueOnError", "enabled", "inputs", "workingDirectory", "clean",
    "fetchDepth", "lfs", "submodules", "persistCredentials", "condition", "target", "percent",
    "increment", "healthCheck", "pool", "workspace", "container", "service", "endpoint",
    "subscription", "tenant", "key", "secret", "registry", "path", "include", "exclude", "batch",
    "branches", "tags", "paths", "always", "none", "auto", "version", "region", "resourceGroup",
    "maxParallel", "prependPath", "targetPath", "rootFolderOrFile", "includeRootFolder",
    "archiveType", "replaceExistingArchive"]

def constants : List String :=
  ["true", "false", "null"]

/-- The mode in which lines belong to a script block. -/
def scriptBlock : String := "script-block"

/-- A whole line that opens a script block: the word for a script and a colon, with a list dash
before it and the sign of a block of text behind it if they are there. -/
def opener : Form :=
  inSequence
    [assertion .textStart, group 1 blanks,
      opt (inSequence [char '-', blanks]),
      oneOf ["pwsh", "powershell"], char ':', blanks,
      opt (inSequence [set (ofList ['|', '>']), opt (set (ofList ['-', '+']))]),
      blanks, assertion .textEnd]

/-- One of the words at the start of a line, behind white space. -/
def sectionName : Form :=
  inSequence [assertion .textStart, blanks, wordStart, group 1 (oneOf sections), wordEnd]

/-- One of the words behind a list dash. -/
def listItem : Form :=
  inSequence
    [assertion .textStart, blanks, char '-', blanks, group 1 (oneOf listItems), wordEnd]

/-- One of the words at the start of a line, behind white space. -/
def property : Form :=
  inSequence [assertion .textStart, blanks, group 1 (oneOf properties), wordEnd]

/-- The text up to the next quote of the kind that starts it, in which a backslash takes the
character behind it with it. -/
def quoted (quote : Char) : Form :=
  let ordinary := many (set (compl (ofList [quote, '\\'])))
  inSequence
    [char quote, ordinary,
      many (inSequence [char '\\', set withinLine, ordinary]), char quote]

/-- A template expression, between doubled braces. -/
def templateExpression : Form :=
  inSequence
    [char '$', char '{', char '{', many1 (set (compl (single '}'))), char '}',
      char '}']

/-- A macro: a dotted name in parentheses. -/
def macroReference : Form :=
  inSequence [char '$', char '(', many1 (set (union CharSet.word (single '.'))), char ')']

/-- A whole word that is an identifier. -/
def identifierWord : Form :=
  inSequence (wordStart :: identifier ++ [wordEnd])

def rules : List Rule :=
  [{ name := "script_opener", pattern := ofForm opener, kind := .keyword,
      action := .push scriptBlock },
    { name := "section", pattern := ofForm sectionName, kind := .keyword, group := some 1 },
    { name := "list_item", pattern := ofForm listItem, kind := .type, group := some 1 },
    { name := "property", pattern := ofForm property, kind := .typeIdentifier, group := some 1 },
    { name := "constant", pattern := ofForm (wholeWord constants), kind := .constant },
    { name := "double_string", pattern := ofForm (quoted '"'), kind := .string },
    { name := "single_string", pattern := ofForm (quoted '\''), kind := .string },
    { name := "comment", pattern := ofForm hashComment, kind := .comment },
    { name := "number", pattern := ofForm (standingNumeral ['[', '{'] [']', '}']),
      kind := .number, group := some 1 },
    { name := "template_expression", pattern := ofForm templateExpression,
      kind := .variableEmbedded },
    { name := "macro", pattern := ofForm macroReference, kind := .variableEmbedded },
    { name := "identifier", pattern := ofForm identifierWord, kind := .identifier }]

/-- A line that starts with white space goes on with the script block. -/
def indented : Form :=
  inSequence [assertion .textStart, set space]

/-- The grammar of pipeline definitions, under an identifier, with the scripts handed to the
grammar `shell`. -/
def grammar (id shell : String) : Grammar :=
  { id, rootRules := rules, others := [⟨scriptBlock, .embedded ⟨shell, ofForm indented⟩⟩] }

end Highlight.Builtin.Pipeline
