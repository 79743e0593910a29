import Highlight.Grammar.Error
import Highlight.Grammar.State
import Highlight.Rule

/-!
# Grammars

A grammar sorts lines into tokens by the rules of the mode it is in.  A mode either has rules of
its own, tried in order, or hands its lines over to another grammar for as long as they
match a pattern.  The first mode is the root, which always has rules.
-/

namespace Highlight

/-- A pattern read from a text by `read`, for the named rule. -/
def Pattern.ofText (rule text : String)
    (read : String → Except PatternError Pattern := Pattern.parse) :
    Except GrammarError Pattern :=
  (read text).mapError (.invalidPattern rule)

/-- The rule with its pattern read from a text. -/
def Rule.ofText (name pattern : String) (kind : TokenKind) : Except GrammarError Rule := do
  return { name, pattern := ← Pattern.ofText name pattern, kind }

/-- How a mode hands its lines to another grammar. -/
structure Embedding where
  /-- The grammar that gets the lines. -/
  grammar : String
  /-- The lines in which this pattern occurs belong to the mode. -/
  continues : Pattern
deriving DecidableEq, Repr

/-- What a mode does with a line. -/
inductive ModeBody where
  | rules (rules : List Rule)
  | embedded (embedding : Embedding)
deriving DecidableEq, Repr

/-- A named mode of a grammar. -/
structure Mode where
  name : String
  body : ModeBody
deriving DecidableEq, Repr

namespace Mode

/-- The rules of the mode, if it has rules. -/
def rules? (m : Mode) : Option (List Rule) :=
  match m.body with
  | .rules rs => some rs
  | .embedded _ => none

/-- The embedding of the mode, if it hands its lines to another grammar. -/
def embedding? (m : Mode) : Option Embedding :=
  match m.body with
  | .rules _ => none
  | .embedded e => some e

/-- The modes that the rules of the mode enter. -/
def targets (m : Mode) : List String :=
  match m.body with
  | .rules rs => rs.filterMap fun r => r.action.target?
  | .embedded _ => []

end Mode

/-- A grammar. -/
structure Grammar where
  id : String
  /-- The rules of the root mode. -/
  rootRules : List Rule := []
  /-- The modes after the root. -/
  others : List Mode := []
deriving DecidableEq, Repr

namespace Grammar

/-- The name of the root mode. -/
def rootName : String := "root"

/-- The modes in the order of their indexes. -/
def modes (g : Grammar) : List Mode :=
  ⟨rootName, .rules g.rootRules⟩ :: g.others

/-- The mode with an index. -/
def mode? (g : Grammar) (index : Nat) : Option Mode :=
  g.modes[index]?

/-- The index of the mode with a name. -/
def modeIndex? (g : Grammar) (name : String) : Option Nat :=
  g.modes.findIdx? (·.name == name)

/-- The name of the mode that a state is in. -/
def modeName (g : Grammar) (s : LineState) : String :=
  ((g.mode? s.mode).map (·.name)).getD rootName

/-- The rules of the mode with an index, if it has rules. -/
def rules? (g : Grammar) (index : Nat) : Option (List Rule) :=
  (g.mode? index).bind (·.rules?)

/-- The embedding of the mode with an index, if it hands its lines to another grammar. -/
def embedding? (g : Grammar) (index : Nat) : Option Embedding :=
  (g.mode? index).bind (·.embedding?)

/-! ### Building -/

/-- Adds a rule behind those of the root mode. -/
def addRule (g : Grammar) (r : Rule) : Grammar :=
  { g with rootRules := g.rootRules ++ [r] }

/-- The modes with a rule added behind those of the named one, which is made if it is not there;
none if the mode takes no rules. -/
def addToModes? (name : String) (r : Rule) : List Mode → Option (List Mode)
  | [] => some [⟨name, .rules [r]⟩]
  | m :: ms =>
    if m.name = name then
      match m.body with
      | .rules rs => some ({ m with body := .rules (rs ++ [r]) } :: ms)
      | .embedded _ => none
    else (addToModes? name r ms).map (m :: ·)

/-- Adds a rule behind those of the named mode, which is made if it is not there. -/
def addRuleTo (g : Grammar) (name : String) (r : Rule) : Except GrammarError Grammar :=
  if name = rootName then .ok (g.addRule r)
  else
    match addToModes? name r g.others with
    | some others => .ok { g with others }
    | none => .error (.takesNoRules g.id name)

/-- Adds a mode that hands its lines to the grammar `embeds` while the pattern `continues`
occurs in them. -/
def addEmbedding (g : Grammar) (name embeds : String) (continues : Pattern) :
    Except GrammarError Grammar :=
  if (g.modeIndex? name).isSome then .error (.duplicateMode g.id name)
  else .ok { g with others := g.others ++ [⟨name, .embedded ⟨embeds, continues⟩⟩] }

/-- Adds an embedding mode with its pattern read from a text by `read`.  A name that is taken is
reported before the text is read. -/
def embed (g : Grammar) (name embeds continues : String)
    (read : String → Except PatternError Pattern := Pattern.parse) :
    Except GrammarError Grammar :=
  if (g.modeIndex? name).isSome then .error (.duplicateMode g.id name)
  else do g.addEmbedding name embeds (← Pattern.ofText (g.id ++ "." ++ name) continues read)

/-! ### Checking -/

/-- The first mode that a rule enters and the grammar does not have. -/
def missingMode? (g : Grammar) : Option String :=
  (g.modes.flatMap Mode.targets).find? fun target => (g.modeIndex? target).isNone

/-- Every mode that a rule enters is a mode of the grammar. -/
def validate (g : Grammar) : Except GrammarError Unit :=
  match g.missingMode? with
  | some target => .error (.unknownMode g.id target)
  | none => .ok ()

/-- The state after an action.  Entering a mode that the grammar does not have changes nothing. -/
def apply (g : Grammar) : Action → LineState → LineState
  | .stay, s => s
  | .push target, s =>
    match g.modeIndex? target with
    | some index => s.push index
    | none => s
  | .pop, s => s.pop

end Grammar

end Highlight
