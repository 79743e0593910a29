import Highlight.Pattern.Error

/-!
# Faults of grammars
-/

namespace Highlight

/-- Why a grammar cannot be built, accepted or found. -/
inductive GrammarError where
  /-- The text given as the pattern of a rule is no pattern. -/
  | invalidPattern (rule : String) (cause : PatternError)
  /-- A rule enters a mode that the grammar does not have. -/
  | unknownMode (grammar mode : String)
  /-- A rule is added to a mode that hands its lines to another grammar. -/
  | takesNoRules (grammar mode : String)
  | duplicateMode (grammar mode : String)
  | unknownGrammar (id : String)
deriving DecidableEq, Repr

namespace GrammarError

/-- The fault in words. -/
def message : GrammarError → String
  | invalidPattern rule cause => "invalid pattern in rule `" ++ rule ++ "`: " ++ cause.message
  | unknownMode grammar mode =>
    "grammar `" ++ grammar ++ "` refers to unknown mode `" ++ mode ++ "`"
  | takesNoRules grammar mode =>
    "mode `" ++ mode ++ "` of grammar `" ++ grammar ++ "` embeds another grammar and takes no rules"
  | duplicateMode grammar mode =>
    "grammar `" ++ grammar ++ "` already has a mode named `" ++ mode ++ "`"
  | unknownGrammar id => "unknown grammar: " ++ id

end GrammarError

end Highlight
