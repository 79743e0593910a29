import Highlight.CommandLine.Options
import Highlight.Config
import Highlight.Editor.Watch
import Highlight.Terminal.Document

/-!
# The program

The program opens a file in an editor of its own, has the grammars set up there, and shows the
tokenized document.  How files are read is left open; everything else is decided here.
-/

namespace Highlight

/-- Why the program fails. -/
inductive ProgramError where
  | options (cause : OptionsError)
  | load (cause : Config.LoadError)
  | noFile
  | file (cause : FileError)
  | grammar (cause : GrammarError)
  | host (cause : HostError)
  /-- The watch has ended without setting up the grammars. -/
  | notAttached
  | config (cause : ConfigError)
deriving DecidableEq, Repr

namespace ProgramError

/-- The fault in words. -/
def message : ProgramError → String
  | options cause => cause.message
  | load (.file cause) => cause.message
  | load (.config cause) => cause.message
  | noFile => "no input file (try --help)"
  | file cause => cause.message
  | grammar cause => cause.message
  | host cause => cause.message
  | notAttached => "attachment cancelled"
  | config cause => cause.message

end ProgramError

namespace Program

def name : String := "pipeline-highlight"

def version : String := "0.1.0"

/-- The answer to a question for the version. -/
def versionText : String :=
  name ++ " " ++ version ++ "\n"

/-- The answer to a question for help. -/
def helpText : String :=
  String.join ([
    name ++ " " ++ version ++ " - pipeline YAML syntax highlighter",
    "",
    "Usage: pipeline-highlight [OPTIONS] FILE",
    "",
    "Options:",
    "  -t, --tokens        Print tokens instead of colored text",
    "  -g, --grammar ID    Highlight with the given grammar",
    "  -c, --config PATH   Read configuration from PATH",
    "      --no-color      Print without colors",
    "  -v, --verbose       Log attachment progress",
    "  -h, --help          Show this help message",
    "  -V, --version       Show version information",
    "",
    "Files ending in .ps1, .psm1 or .psd1 use the shell grammar."].map (· ++ "\n"))

/-- The host with the text as its first document, after the watch over it has ended or, if it
does not end at its first look, has gone on up to then. -/
def watch (c : Config) (a : Attachment) (text : String) : Watch :=
  let w : Watch :=
    { attachment := a, host := Host.ready.openDocument text, interval := c.pollInterval }
  w.advance 0

/-- The host on which the grammars have been set up for a text. -/
def attachedHost (c : Config) (r : Registry) (text : String) : Except ProgramError Host := do
  let a ← (Attachment.make r c.pipelineGrammar c.shellGrammar).mapError .grammar
  let w := watch c a text
  match w.outcome with
  | some (.attached _) => return w.host
  | some (.failed fault) => throw (.host fault)
  | _ => throw .notAttached

/-- The grammar that the options or, failing that, the name of the file choose, unless it is the
one that documents get anyway. -/
def chosenGrammar (o : Options) (c : Config) (r : Registry) (path : String) : Option String :=
  (o.grammar.or (r.detect path)).filter (· != c.pipelineGrammar)

/-- The tokenized lines of the text of a file. -/
def tokenize (o : Options) (c : Config) (path text : String) :
    Except ProgramError (List TokenizedLine) := do
  let r := Builtin.registry c.pipelineGrammar c.shellGrammar
  let host ← attachedHost c r text
  let host ←
    match chosenGrammar o c r path with
    | none => .ok host
    | some id => do
      let _ ← (r.find id).mapError .grammar
      .ok (host.setLanguage 1 id)
  (host.tokenizeDocument 1).mapError .host

/-- The output for the text of a file. -/
def output (o : Options) (c : Config) (path text : String) : Except ProgramError (List Char) := do
  let lines ← tokenize o c path text
  if o.tokens then return Terminal.dump text lines
  let theme := Theme.ofColors (← c.tokenColors.mapError .config)
  return Terminal.renderDocument (if c.color && !o.noColor then some theme else none) text lines

section

variable {m : Type → Type} [Monad m] (read : String → m (Except FileError String))

/-- The settings: those of the file that the options name, or of the file in the home directory
if there is one. -/
def loadConfig (home : Option String) (o : Options) : m (Except Config.LoadError Config) := do
  match o.config, home with
  | some path, _ => return Config.ofFile true (← read path)
  | none, some home => return Config.ofFile false (← read (Text.inDirectory home Config.fileName))
  | none, none => return .ok {}

/-- The output for the file that the options name. -/
def highlight (home : Option String) (o : Options) : m (Except ProgramError (List Char)) := do
  match ← loadConfig read home o, o.file with
  | .error e, _ => return .error (.load e)
  | .ok _, none => return .error .noFile
  | .ok c, some path =>
    match ← read path with
    | .error e => return .error (.file e)
    | .ok text => return output o c path text

/-- The output of the program, or why there is none. -/
def run (home : Option String) (args : List String) : m (Except ProgramError (List Char)) := do
  match Options.ofArguments args with
  | .error e => return .error (.options e)
  | .ok .help => return .ok helpText.toList
  | .ok .version => return .ok versionText.toList
  | .ok (.highlight o) => highlight read home o

end

end Program

end Highlight
