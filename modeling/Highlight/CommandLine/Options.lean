/-!
# Options of the command line

The arguments are read from left to right.  The first one that asks for help or for the version
ends the reading, and so does the first fault.
-/

namespace Highlight

/-- What the arguments choose. -/
structure Options where
  /-- The file to show. -/
  file : Option String := none
  /-- The file with the settings. -/
  config : Option String := none
  /-- The grammar of the file. -/
  grammar : Option String := none
  /-- The tokens are listed. -/
  tokens : Bool := false
  noColor : Bool := false
  /-- Progress may be reported, which never changes the output. -/
  verbose : Bool := false
deriving DecidableEq, Repr

/-- What the program is asked to do. -/
inductive Request where
  | help
  | version
  | highlight (options : Options)
deriving DecidableEq, Repr

/-- Why arguments cannot be understood. -/
inductive OptionsError where
  | unknownOption (option : String)
  | missingValue (option : String)
  | secondFile
deriving DecidableEq, Repr

namespace OptionsError

/-- The fault in words. -/
def message : OptionsError → String
  | unknownOption option => "unknown option: " ++ option
  | missingValue option => option ++ " needs a value"
  | secondFile => "only one input file is supported"

end OptionsError

/-- What an argument stands for, whatever stands around it. -/
inductive Argument where
  | help
  | version
  | tokens
  | noColor
  | verbose
  /-- Takes the next argument for the grammar. -/
  | grammar
  /-- Takes the next argument for the file with the settings. -/
  | config
  | unknown
  | file
deriving DecidableEq, Repr

namespace Argument

def ofText (arg : String) : Argument :=
  match arg with
  | "--help" => help
  | "-h" => help
  | "--version" => version
  | "-V" => version
  | "--tokens" => tokens
  | "-t" => tokens
  | "--no-color" => noColor
  | "--verbose" => verbose
  | "-v" => verbose
  | "--grammar" => grammar
  | "-g" => grammar
  | "--config" => config
  | "-c" => config
  | arg => if arg.toList.head? = some '-' then unknown else file

end Argument

namespace Options

/-- Reads the arguments behind those that have made the choices `o`. -/
def read (o : Options) : List String → Except OptionsError Request
  | [] => .ok (.highlight o)
  | arg :: args =>
    match Argument.ofText arg, args with
    | .help, _ => .ok .help
    | .version, _ => .ok .version
    | .tokens, args => read { o with tokens := true } args
    | .noColor, args => read { o with noColor := true } args
    | .verbose, args => read { o with verbose := true } args
    | .grammar, value :: args => read { o with grammar := some value } args
    | .config, value :: args => read { o with config := some value } args
    | .grammar, [] => .error (.missingValue arg)
    | .config, [] => .error (.missingValue arg)
    | .unknown, _ => .error (.unknownOption arg)
    | .file, args =>
      match o.file with
      | some _ => .error .secondFile
      | none => read { o with file := some arg } args

/-- Reads the arguments of the program. -/
def ofArguments (args : List String) : Except OptionsError Request :=
  read {} args

end Options

end Highlight
