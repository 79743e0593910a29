/-!
# Values of TOML documents
-/

namespace Highlight.Toml

/-- A value.  Floats and dates are kept as they are written. -/
inductive Value where
  | string (s : String)
  | integer (n : Int)
  | float (written : String)
  | boolean (b : Bool)
  | date (written : String)
  | array (items : List Value)
  | table (entries : List (String × Value))
deriving Repr

/-- The entries of a table with their keys, in the order in which they were written. -/
abbrev Table := List (String × Value)

end Highlight.Toml
