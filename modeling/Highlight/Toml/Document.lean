import Highlight.Toml.Node
import Highlight.Toml.Scalar

/-!
# Reading TOML documents

A document is a sequence of statements: headers, which open a table, and keys with values,
which add to the table that was opened last.  The text is split into its statements first, and
then the statements are carried out.
-/

namespace Highlight.Toml

/-! ### Values -/

mutual

/-- The value at the front of a text, of which the parts are nested no deeper than `fuel` says. -/
def value : (fuel : Nat) → List Char → Except TomlError (Taken Value)
  | 0, cs => unexpected cs
  | fuel + 1, '[' :: cs => items fuel [] cs
  | fuel + 1, '{' :: cs =>
    match skipBlanks cs with
    | '}' :: cs => .ok (.table [], cs)
    | cs => members fuel [] cs
  | _ + 1, cs =>
    match string? cs with
    | some taken => taken.map fun (s, cs) => (.string s, cs)
    | none => scalar cs

/-- The rest of an array behind the items of `acc` in reverse.  A comma may follow the last one. -/
def items : (fuel : Nat) → (acc : List Value) → List Char → Except TomlError (Taken Value)
  | 0, _, cs => unexpected cs
  | fuel + 1, acc, cs => do
    match ← skipLines false cs with
    | ']' :: cs => return (.array acc.reverse, cs)
    | cs =>
      let (v, cs) ← value fuel cs
      match ← skipLines false cs with
      | ',' :: cs => items fuel (v :: acc) cs
      | ']' :: cs => return (.array (v :: acc).reverse, cs)
      | cs => unexpected cs

/-- The rest of a table in braces, behind the entries made so far.  It stays within its line, and
no comma follows the last entry. -/
def members : (fuel : Nat) → Entries → List Char → Except TomlError (Taken Value)
  | 0, _, cs => unexpected cs
  | fuel + 1, entries, cs => do
    let (path, cs) ← path cs
    let (v, cs) ← value fuel (skipBlanks (← expect '=' cs))
    let entries ← entries.assignAt path v
    match skipBlanks cs with
    | ',' :: cs => members fuel entries cs
    | '}' :: cs => return (.table (Entries.toTable entries), cs)
    | cs => unexpected cs

end

/-! ### Statements -/

/-- A statement of a document. -/
inductive Statement where
  /-- Opens the table at a path. -/
  | header (path : List String)
  /-- Opens one more table of the array at a path. -/
  | itemHeader (path : List String)
  /-- Adds a value to the open table. -/
  | entry (path : List String) (v : Value)
  /-- A line without content. -/
  | blank

/-- The statement at the front of a text, up to the end of its line. -/
def statement (cs : List Char) : Except TomlError (Taken Statement) :=
  match skipBlanks cs with
  | '[' :: '[' :: cs => do
    let (path, cs) ← path cs
    return (.itemHeader path, ← endLine (← expect ']' (← expect ']' cs)))
  | '[' :: cs => do
    let (path, cs) ← path cs
    return (.header path, ← endLine (← expect ']' cs))
  | [] => .ok (.blank, [])
  | c :: cs => do
    if c == '#' || c == '\r' || c == '\n' then return (.blank, ← endLine (c :: cs))
    let (path, cs) ← path (c :: cs)
    let (v, cs) ← value (cs.length + 1) (skipBlanks (← expect '=' cs))
    return (.entry path v, ← endLine cs)

/-- The statements of a text, at most as many as `fuel` says. -/
def statements : (fuel : Nat) → List Char → Except TomlError (List Statement)
  | _, [] => .ok []
  | 0, cs => unexpected cs
  | fuel + 1, cs => do
    let (s, cs) ← statement cs
    return s :: (← statements fuel cs)

/-! ### Documents -/

/-- A document of which some statements have been carried out. -/
structure Draft where
  /-- The entries of the whole document. -/
  root : Entries := []
  /-- The path of the table that is open. -/
  current : List String := []

namespace Draft

/-- Opens a table by `opening`, applied to its key in the table around it. -/
def openAt (d : Draft) (path : List String)
    (opening : String → Entries → Except TomlError Entries) : Except TomlError Draft :=
  match path.reverse with
  | [] => .ok d
  | k :: outer => do
    return { root := ← d.root.atHeader (opening k) outer.reverse, current := path }

/-- Carries out a statement. -/
def run (d : Draft) : Statement → Except TomlError Draft
  | .header path => d.openAt path Entries.openTable
  | .itemHeader path => d.openAt path Entries.openNext
  | .entry path v => do
    return { d with root := ← d.root.atHeader (·.assignAt path v) d.current }
  | .blank => .ok d

end Draft

/-- The text without a byte order mark. -/
def skipMark : List Char → List Char
  | '\uFEFF' :: cs => cs
  | cs => cs

/-- Reads a document. -/
def read (text : String) : Except TomlError Table := do
  let cs := skipMark text.toList
  let draft ← (← statements cs.length cs).foldlM Draft.run {}
  return draft.root.toTable

end Highlight.Toml
