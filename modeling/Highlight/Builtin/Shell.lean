import Highlight.Builtin.Pieces
import Highlight.Grammar.Basic

/-!
# The grammar of shell scripts

Commands named by a verb and a noun, keywords, comments, strings, type annotations, variables,
numbers and hash literals.
-/

namespace Highlight.Builtin.Shell

open Pattern Pattern.Form CharSet

/-- The verbs that commands start with. -/
def verbs : List String :=
  ["Get", "Set", "New", "Write", "Remove", "Start", "Stop", "Restart", "Invoke", "Test", "Enable",
    "Disable", "Clear", "Export", "Import", "Convert", "Format", "Exists"]

/-- The keywords of declarations and of the handling of errors. -/
def controlWords : List String :=
  ["function", "param", "begin", "process", "end", "filter", "class", "enum", "break", "continue",
    "do", "switch", "throw", "trap", "try", "catch", "finally"]

/-- The keywords of branches and loops. -/
def flowWords : List String :=
  ["if", "else", "elseif", "foreach", "while", "return"]

/-- A verb, a hyphen and letters. -/
def command : Form :=
  inSequence [group 1 (oneOf verbs), char '-', many1 (set letters)]

/-- The text up to the next quote of the kind that starts it. -/
def quoted (quote : Char) : Form :=
  inSequence [char quote, few (set withinLine), char quote]

/-- An identifier between the given characters. -/
def enclosed (opening closing : List Char) : Form :=
  inSequence (opening.map char ++ identifier ++ closing.map char)

/-- What stands between braces behind an at sign. -/
def hashLiteral : Form :=
  inSequence [char '@', char '{', many (set (compl (single '}'))), char '}']

/-- A text between quotes of either kind. -/
def string : Form :=
  alt (quoted '"') (quoted '\'')

def rules : List Rule :=
  [{ name := "command", pattern := ofForm command, kind := .type },
    { name := "keyword_control", pattern := ofForm (wholeWord controlWords),
      kind := .keywordControl },
    { name := "control_flow", pattern := ofForm (wholeWord flowWords), kind := .controlFlow },
    { name := "comment", pattern := ofForm hashComment, kind := .comment },
    { name := "string", pattern := ofForm string, kind := .string },
    { name := "type_annotation", pattern := ofForm (enclosed ['['] [']']), kind := .type },
    { name := "variable", pattern := ofForm (enclosed ['$'] []), kind := .variableName },
    { name := "variable_braced", pattern := ofForm (enclosed ['$', '{'] ['}']),
      kind := .variableBracketed },
    { name := "subexpression", pattern := ofForm (enclosed ['$', '('] [')']),
      kind := .variableBracketed },
    { name := "number",
      pattern := ofForm (standingNumeral ['(', '[', '{'] [')', ']', '}']),
      kind := .number, group := some 1 },
    { name := "hashtable", pattern := ofForm hashLiteral, kind := .object }]

/-- The grammar of shell scripts, under an identifier. -/
def grammar (id : String) : Grammar :=
  { id, rootRules := rules }

end Highlight.Builtin.Shell
