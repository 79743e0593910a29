/-!
# Faults of TOML documents
-/

namespace Highlight

/-- Why a text is no TOML document. -/
inductive TomlError where
  | unexpected (c : Char)
  | unexpectedEnd
  | unknownEscape
  /-- A word that is neither a number nor a truth value nor a date. -/
  | noValue (word : String)
  /-- An integer that does not fit into 64 bits. -/
  | outOfRange (word : String)
  | duplicateKey (key : String)
  /-- A value that is not a table, used as one. -/
  | notATable (key : String)
deriving DecidableEq, Repr

namespace TomlError

/-- The fault in words. -/
def message : TomlError → String
  | unexpected c => "unexpected character " ++ c.quote
  | unexpectedEnd => "unexpected end"
  | unknownEscape => "unknown escape"
  | noValue word => "no value: " ++ word
  | outOfRange word => "integer out of range: " ++ word
  | duplicateKey key => "duplicate key: " ++ key
  | notATable key => "not a table: " ++ key

end TomlError

end Highlight
