import Highlight.Builtin.Registry
import Highlight.Style
import Highlight.Text.File
import Highlight.Toml.Document

/-!
# Configurations

The settings of the program, read from a TOML document.  A setting that is not written has its
default value, and no other keys may be written.
-/

namespace Highlight

/-- Why a document is no configuration. -/
inductive ConfigError where
  | toml (cause : TomlError)
  | unknownKey (key : String)
  | wrongType (key : String)
  /-- A color is given to something that is no kind of token. -/
  | unknownKind (name : String)
  /-- A kind of token is given something that is no color. -/
  | unknownColor (kind name : String)
deriving DecidableEq, Repr

namespace ConfigError

/-- The fault in words. -/
def message : ConfigError → String
  | toml cause => "configuration error: " ++ cause.message
  | unknownKey key => "configuration error: unknown field " ++ key
  | wrongType key => "configuration error: invalid type for " ++ key
  | unknownKind name => "unknown token type in [colors]: " ++ name
  | unknownColor kind name => "unknown color for " ++ kind ++ ": " ++ name

end ConfigError

/-- The settings of the program. -/
structure Config where
  /-- The time between two looks at the editor, in milliseconds. -/
  pollInterval : Nat := 1000
  /-- The identifier of the grammar of pipeline definitions. -/
  pipelineGrammar : String := Builtin.pipelineId
  /-- The identifier of the grammar of shell scripts. -/
  shellGrammar : String := Builtin.shellId
  /-- Documents are shown in color. -/
  color : Bool := true
  /-- Names of kinds of tokens with the names of their colors. -/
  colors : List (String × String) := []
deriving DecidableEq, Repr

namespace Config

/-- The shortest time between two looks at the editor, in milliseconds. -/
def minInterval : Nat := 10

/-- The file of the settings in the home directory. -/
def fileName : String := ".pipeline-highlight.toml"

/-- The key under which a date is found where a table is asked for. -/
def dateKey : String := "$__toml_private_datetime"

/-- A value that has to be a string. -/
def stringOf (key : String) : Toml.Value → Except ConfigError String
  | .string s => .ok s
  | _ => .error (.wrongType key)

/-- A value that has to be a table of strings.  A date is a table of one entry. -/
def colorsOf (key : String) : Toml.Value → Except ConfigError (List (String × String))
  | .table entries => entries.mapM fun (k, v) => do return (k, ← stringOf k v)
  | .date written => .ok [(dateKey, written)]
  | _ => .error (.wrongType key)

/-- The settings with one of them read from an entry. -/
def set (c : Config) : String × Toml.Value → Except ConfigError Config
  | ("poll-interval-ms", .integer n) =>
    if 0 ≤ n then .ok { c with pollInterval := n.toNat } else .error (.wrongType "poll-interval-ms")
  | ("poll-interval-ms", _) => .error (.wrongType "poll-interval-ms")
  | ("pipeline-grammar", v) => do
    return { c with pipelineGrammar := ← stringOf "pipeline-grammar" v }
  | ("shell-grammar", v) => do return { c with shellGrammar := ← stringOf "shell-grammar" v }
  | ("color", .boolean b) => .ok { c with color := b }
  | ("color", _) => .error (.wrongType "color")
  | ("colors", v) => do return { c with colors := ← colorsOf "colors" v }
  | (key, _) => .error (.unknownKey key)

/-- The kind and the color of an entry of `colors`. -/
def colorEntry : String × String → Except ConfigError (TokenKind × Color)
  | (kind, color) =>
    match TokenKind.ofName? kind, Color.ofName? color with
    | none, _ => .error (.unknownKind kind)
    | some _, none => .error (.unknownColor kind color)
    | some k, some c => .ok (k, c)

/-- The kinds of tokens with the colors that they are given. -/
def tokenColors (c : Config) : Except ConfigError (List (TokenKind × Color)) :=
  c.colors.mapM colorEntry

/-- The settings of a table, before the names of kinds and colors are looked up. -/
def ofTable (table : Toml.Table) : Except ConfigError Config := do
  let c ← table.foldlM set {}
  return { c with pollInterval := max c.pollInterval minInterval }

/-- Reads the settings from a document. -/
def parse (text : String) : Except ConfigError Config := do
  let c ← ofTable (← (Toml.read text).mapError .toml)
  let _ ← c.tokenColors
  return c

/-- Why a configuration cannot be had. -/
inductive LoadError where
  | file (cause : FileError)
  | config (cause : ConfigError)
deriving DecidableEq, Repr

/-- Reads the settings from what a file gave.  A missing file has the default settings, unless it
is required. -/
def ofFile (required : Bool) : Except FileError String → Except LoadError Config
  | .ok text => (parse text).mapError .config
  | .error .missing => if required then .error (.file .missing) else .ok {}
  | .error e => .error (.file e)

end Config

end Highlight
