import Highlight.Grammar.Tokenize
import Highlight.Text.FileName
import Highlight.Text.Lines

/-!
# Registries

A registry holds grammars by their identifiers and the extensions of the files that they are
for.  The grammars of a registry can hand lines to each other.
-/

namespace Highlight

/-- Grammars by their identifiers. -/
structure Registry where
  /-- The grammars in the order of their identifiers. -/
  grammars : List Grammar := []
  /-- The file extensions with the identifiers of their grammars, the latest first. -/
  extensions : List (String × String) := []
deriving DecidableEq, Repr

namespace Registry

def empty : Registry := {}

/-- The grammar with an identifier. -/
def get? (r : Registry) (id : String) : Option Grammar :=
  r.grammars.find? (·.id == id)

def contains (r : Registry) (id : String) : Bool :=
  (r.get? id).isSome

/-- The identifiers of the grammars, in order. -/
def ids (r : Registry) : List String :=
  r.grammars.map (·.id)

/-- The grammars, which are in order, with `g` put in its place. -/
def place (g : Grammar) : List Grammar → List Grammar
  | [] => [g]
  | h :: hs =>
    if g.id < h.id then g :: h :: hs
    else if g.id = h.id then g :: hs
    else h :: place g hs

/-- Adds a grammar, which replaces one with the same identifier. -/
def insert (r : Registry) (g : Grammar) : Registry :=
  { r with grammars := place g r.grammars }

/-- Adds a grammar if it is valid. -/
def register (r : Registry) (g : Grammar) : Except GrammarError Registry := do
  g.validate
  return r.insert g

/-! ### Files -/

/-- Files with the extension are for the grammar. -/
def addExtension (r : Registry) (extension grammar : String) : Registry :=
  { r with extensions := (Text.normalExtension extension.toList, grammar) :: r.extensions }

/-- The grammar that a file is for. -/
def detect (r : Registry) (file : String) : Option String :=
  (Text.extension? file).bind fun e => r.extensions.lookup (Text.normalExtension e)

/-! ### Tokenizing -/

/-- The grammar with an identifier, or the fault that there is none. -/
def find (r : Registry) (id : String) : Except GrammarError Grammar :=
  match r.get? id with
  | some g => .ok g
  | none => .error (.unknownGrammar id)

/-- A line tokenized by the grammar with an identifier. -/
def tokenizeLine (r : Registry) (id : String) (line : List Char) (state : LineState) :
    Except GrammarError TokenizedLine := do
  return (← r.find id).tokenizeLine r.get? line state

/-- The lines of a text tokenized by the grammar with an identifier. -/
def tokenizeDocument (r : Registry) (id text : String) :
    Except GrammarError (List TokenizedLine) := do
  return (← r.find id).tokenizeLines r.get? .root (Text.lines text)

end Registry

/-- A grammar of a registry as an editor gets it: by its identifier, without asking whether
the registry has it. -/
structure Tokenizer where
  registry : Registry
  grammar : String
deriving DecidableEq, Repr

namespace Tokenizer

/-- A line tokenized from the state that the line before it left. -/
def tokenizeLine (t : Tokenizer) (line : List Char) (state : LineState) :
    Except GrammarError TokenizedLine :=
  t.registry.tokenizeLine t.grammar line state

/-- Lines tokenized one after another. -/
def tokenizeLines (t : Tokenizer) :
    LineState → List (List Char) → Except GrammarError (List TokenizedLine)
  | _, [] => .ok []
  | state, line :: lines => do
    let l ← t.tokenizeLine line state
    return l :: (← t.tokenizeLines l.endState lines)

end Tokenizer

end Highlight
