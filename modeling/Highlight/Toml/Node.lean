import Highlight.Toml.Error
import Highlight.Toml.Value

/-!
# Tables under construction

A table can be made by a header of its own, by the header of a table inside it, or by a key with
dots, and how it was made decides what may still be added to it.
-/

namespace Highlight.Toml

/-- How a table was made. -/
inductive Origin where
  /-- By the header of a table inside it.  Its own header may still follow. -/
  | implied
  /-- By a key with dots. -/
  | dotted
  /-- By its own header. -/
  | headed
deriving DecidableEq, Repr

/-- A value, or a table that may still grow. -/
inductive Node where
  | value (v : Value)
  | table (origin : Origin) (entries : List (String × Node))
  /-- The tables of an array of tables, of which the latest one grows. -/
  | tables (earlier : List Value) (latest : List (String × Node))

/-- The entries of a table that may still grow. -/
abbrev Entries := List (String × Node)

mutual

/-- The node as a value. -/
def Node.toValue : Node → Value
  | .value v => v
  | .table _ entries => .table (Entries.toTable entries)
  | .tables earlier latest => .array (earlier ++ [.table (Entries.toTable latest)])

/-- The entries as a table that does not grow. -/
def Entries.toTable : Entries → Table
  | [] => []
  | (k, n) :: entries => (k, n.toValue) :: Entries.toTable entries

end

namespace Entries

/-- The entries with the node of a key replaced. -/
def replace (k : String) (n : Node) (entries : Entries) : Entries :=
  entries.map fun e => if e.1 = k then (k, n) else e

/-- Changes the table that a path leads to.  Tables that are missing on the way are made, and
those that are there must be open to the change. -/
def within (made : Origin) (isOpen : Origin → Bool)
    (change : Origin → Entries → Except TomlError Entries) :
    Origin → List String → Entries → Except TomlError Entries
  | origin, [], entries => change origin entries
  | _, k :: path, entries =>
    match entries.lookup k with
    | none => do
      return entries ++ [(k, .table made (← within made isOpen change made path []))]
    | some (.value _) => .error (.notATable k)
    | some (.table origin inner) =>
      if isOpen origin then do
        return replace k (.table origin (← within made isOpen change origin path inner)) entries
      else .error (.duplicateKey k)
    | some (.tables earlier latest) => do
      return replace k (.tables earlier (← within made isOpen change .headed path latest)) entries

/-- Changes the table that a header has opened. -/
def atHeader (change : Entries → Except TomlError Entries) (path : List String)
    (entries : Entries) : Except TomlError Entries :=
  within .implied (fun _ => true) (fun _ => change) .headed path entries

/-- Opens the table with the key `k`. -/
def openTable (k : String) (entries : Entries) : Except TomlError Entries :=
  match entries.lookup k with
  | none => .ok (entries ++ [(k, .table .headed [])])
  | some (.table .implied inner) => .ok (replace k (.table .headed inner) entries)
  | some _ => .error (.duplicateKey k)

/-- Opens one more table of the array with the key `k`. -/
def openNext (k : String) (entries : Entries) : Except TomlError Entries :=
  match entries.lookup k with
  | none => .ok (entries ++ [(k, .tables [] [])])
  | some (.tables earlier latest) =>
    .ok (replace k (.tables (earlier ++ [.table (toTable latest)]) []) entries)
  | some _ => .error (.duplicateKey k)

/-- Adds a value under a key that is free. -/
def add (k : String) (v : Value) (entries : Entries) : Except TomlError Entries :=
  match entries.lookup k with
  | none => .ok (entries ++ [(k, .value v)])
  | some _ => .error (.duplicateKey k)

/-- Adds a value at a key whose dots lead through `tables`, which only such keys may have made. -/
def assign (tables : List String) (k : String) (v : Value) (entries : Entries) :
    Except TomlError Entries :=
  match tables with
  | [] => add k v entries
  | _ :: _ =>
    within .dotted (· != .headed)
      (fun origin inner => if origin = .dotted then add k v inner else .error (.duplicateKey k))
      .headed tables entries

/-- Adds a value at a path. -/
def assignAt (path : List String) (v : Value) (entries : Entries) : Except TomlError Entries :=
  match path.reverse with
  | [] => .ok entries
  | k :: tables => assign tables.reverse k v entries

end Entries

end Highlight.Toml
