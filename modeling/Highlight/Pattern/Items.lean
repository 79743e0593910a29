import Highlight.Pattern.Class

/-!
# The items of a text

`Pattern.Item.list` splits a text into its items.  Each item takes at least one character, so the
number of characters bounds the number of items.
-/

namespace Highlight.Pattern.Item

/-! ### Repetition counts -/

/-- The largest repetition count. -/
def maxCount : Nat := 4294967295

/-- The count that is written with white space around it. -/
def count? (cs : List Char) : Option Nat :=
  let cs := cs.dropWhile Unicode.isSpace
  let digits := cs.takeWhile Char.isDigit
  let n := digits.foldl (fun n d => 10 * n + (d.toNat - 48)) 0
  let rest := (cs.dropWhile Char.isDigit).dropWhile Unicode.isSpace
  if digits = [] || maxCount < n || rest ≠ [] then none else some n

/-- The bounds that are written between braces: a count, a lower bound with a comma behind it, or
two bounds. -/
def bounds (cs : List Char) : Except PatternError (Nat × Option Nat) :=
  match count? (cs.takeWhile (· != ',')), cs.dropWhile (· != ',') with
  | some n, [] => .ok (n, some n)
  | some n, [_] => .ok (n, none)
  | some n, _ :: upper =>
    match count? upper with
    | some m => if m < n then .error .reversedRepetition else .ok (n, some m)
    | none => .error .malformedRepetition
  | none, _ => .error .malformedRepetition

/-- A repetition, lazy if a question mark follows. -/
def greediness (f : Flags) (min : Nat) (max : Option Nat) : List Char → Item × List Char
  | '?' :: rest => (repetition min max f.swapGreed, rest)
  | rest => (repetition min max !f.swapGreed, rest)

/-- The repetition written behind an opening brace. -/
def braces (f : Flags) (cs : List Char) : Except PatternError (Item × List Char) :=
  match f.braced? cs with
  | some (inside, rest) => do
    let (min, max) ← bounds inside
    return greediness f min max (f.skip rest)
  | none => .error .malformedRepetition

/-! ### Groups -/

/-- The flags behind the start of a group, up to its body or its end. -/
def flagChanges (negated dangling : Bool) (changes : FlagChanges) :
    List Char → Except PatternError (Item × List Char)
  | [] => .error .unclosedGroup
  | ':' :: rest =>
    if dangling then .error .malformedFlags
    else .ok (groupStart (.plain changes.reverse), rest)
  | ')' :: rest =>
    if dangling || changes.isEmpty then .error .malformedFlags
    else .ok (flags changes.reverse, rest)
  | '-' :: rest =>
    if negated then .error .malformedFlags else flagChanges true true changes rest
  | c :: rest =>
    match Flag.ofLetter? c with
    | none => .error (.unknownFlag c)
    | some flag =>
      if changes.any (·.1 == flag) then .error .malformedFlags
      else flagChanges negated false ((flag, !negated) :: changes) rest

/-- The character can start the name of a group. -/
def isNameStart (c : Char) : Bool :=
  c == '_' || Unicode.Property.isAlphabetic c

/-- The character can stand in the name of a group. -/
def isNamePart (c : Char) : Bool :=
  isNameStart c || Unicode.inRanges Unicode.Category.number c.toNat || c == '.' || c == '[' ||
    c == ']'

/-- The start of a group whose name stands before a closing angle bracket. -/
def namedGroup (cs : List Char) : Except PatternError (Item × List Char) :=
  let name := cs.takeWhile (· != '>')
  match cs.dropWhile (· != '>') with
  | [] => .error .malformedName
  | _ :: rest =>
    if (name.head?.any isNameStart) && name.all isNamePart then
      .ok (groupStart (.named (String.ofList name)), rest)
    else .error .malformedName

/-- The item that an opening parenthesis starts. -/
def group : List Char → Except PatternError (Item × List Char)
  | '?' :: '=' :: _ | '?' :: '!' :: _ | '?' :: '<' :: '=' :: _ | '?' :: '<' :: '!' :: _ =>
    .error .lookAround
  | '?' :: 'P' :: '<' :: rest | '?' :: '<' :: rest => namedGroup rest
  | '?' :: rest => flagChanges false false [] rest
  | rest => .ok (groupStart .capturing, rest)

/-! ### The items of a text -/

/-- The first item of a text that starts with `c`. -/
def next (f : Flags) (c : Char) (rest : List Char) : Except PatternError (Item × List Char) :=
  match c with
  | '\\' => do
    let (atom, rest) ← Atom.escaped f rest
    return (piece (atom.form f) 0, rest)
  | '[' => bracketed f rest
  | '(' => group (f.skip rest)
  | ')' => .ok (groupEnd, rest)
  | '|' => .ok (bar, rest)
  | '.' => do return (piece (.set (← f.dot)) 0, rest)
  | '^' => .ok (piece (.assertion f.caret) 0, rest)
  | '$' => .ok (piece (.assertion f.dollar) 0, rest)
  | '*' => .ok (greediness f 0 none rest)
  | '+' => .ok (greediness f 1 none rest)
  | '?' => .ok (greediness f 0 (some 1) rest)
  | '{' => braces f rest
  | c => .ok (piece ((Atom.literal c).form f) 0, rest)

/-- The flags behind an item, from those in front of it and, as `outer`, those in front of the
groups that are open. -/
def flagsBehind (f : Flags) (outer : List Flags) : Item → Flags × List Flags
  | groupStart (.plain changes) => (f.change changes, f :: outer)
  | groupStart _ => (f, f :: outer)
  | flags changes => (f.change changes, outer)
  | groupEnd => (outer.headD f, outer.tail)
  | _ => (f, outer)

/-- The first items of a text, at most as many as `fuel` says. -/
def firstItems : (fuel : Nat) → (f : Flags) → (outer : List Flags) → List Char →
    Except PatternError (List Item)
  | 0, _, _, _ => .ok []
  | fuel + 1, f, outer, cs =>
    match f.skip cs with
    | [] => .ok []
    | c :: cs => do
      let (item, rest) ← next f c cs
      let (f, outer) := flagsBehind f outer item
      return item :: (← firstItems fuel f outer rest)

/-- The items of a text. -/
def list (cs : List Char) : Except PatternError (List Item) :=
  firstItems cs.length {} [] cs

end Highlight.Pattern.Item
