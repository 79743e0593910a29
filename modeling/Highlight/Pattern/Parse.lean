import Highlight.Pattern.Basic
import Highlight.Pattern.Items
import Highlight.Pattern.Memory
import Highlight.Pattern.Simplify

/-!
# Reading written patterns

`Pattern.parse` reads a pattern from a text.  The items of the text are taken one after
another; an open alternation is kept for each group that has been started and not yet ended.
Patterns that are nested too deep or would take too much memory are refused.
-/

namespace Highlight.Pattern

/-- The height that a writing may have. -/
def maxHeight : Nat := 250

/-- A form with the height of its writing: how deep groups, classes, repetitions, sequences and
alternations stand in one another. -/
structure Written where
  form : Form
  height : Nat

namespace Written

/-- The writing itself, unless it is too high. -/
def bounded (w : Written) : Except PatternError Written :=
  if w.height ≤ maxHeight then .ok w else .error .tooDeep

/-- The height of several pieces of writing that are put together, or of a single one. -/
def heightOf : List Nat → Nat
  | [] => 0
  | [n] => n
  | ns => ns.foldl max 0 + 1

/-- The alternatives put together. -/
def choice (ws : List Written) : Written :=
  ⟨Form.choice (ws.map (·.form)), heightOf (ws.map (·.height))⟩

/-- The writing put inside of another one. -/
def enclose (w : Written) (around : Form → Form) : Except PatternError Written :=
  bounded ⟨around w.form, w.height + 1⟩

end Written

/-- A part of an alternative. -/
inductive Part where
  | piece (w : Written)
  /-- A change of flags, which cannot be repeated. -/
  | change

namespace Part

def form? : Part → Option Form
  | piece w => some w.form
  | change => none

def height : Part → Nat
  | piece w => w.height
  | change => 0

end Part

/-- An alternation that has not ended. -/
structure Alternation where
  /-- The alternatives that have ended, the latest first. -/
  ended : List Written := []
  /-- The parts of the current alternative, the latest first. -/
  current : List Part := []

namespace Alternation

/-- Puts a part behind the others. -/
def push (a : Alternation) (part : Part) : Alternation :=
  { a with current := part :: a.current }

/-- The current alternative. -/
def sequence (a : Alternation) : Written :=
  ⟨Form.inSequence (a.current.reverse.filterMap Part.form?),
    Written.heightOf (a.current.map Part.height)⟩

/-- Starts another alternative. -/
def split (a : Alternation) : Alternation :=
  { ended := a.sequence :: a.ended }

/-- All alternatives in order. -/
def finish (a : Alternation) : Written :=
  Written.choice a.split.ended.reverse

end Alternation

/-- A group that has not ended, with what surrounds it. -/
structure OpenGroup where
  /-- The index of the group, if it captures. -/
  index : Option Nat
  /-- The alternation in front of the group. -/
  outer : Alternation

/-- What has been read of a pattern. -/
structure Draft where
  alternation : Alternation := {}
  /-- The groups that have not ended, the innermost first. -/
  openGroups : List OpenGroup := []
  /-- The number of capturing groups started so far. -/
  captures : Nat := 0
  /-- The names of groups given so far. -/
  names : List String := []

namespace Draft

def push (d : Draft) (f : Form) (height : Nat) : Draft :=
  { d with alternation := d.alternation.push (.piece ⟨f, height⟩) }

/-- Starts a group. -/
def openGroup (d : Draft) (index : Option Nat) : Draft :=
  { d with
    alternation := {}
    openGroups := ⟨index, d.alternation⟩ :: d.openGroups
    captures := d.captures + (if index.isSome then 1 else 0) }

/-- Ends the innermost group. -/
def closeGroup (d : Draft) : Except PatternError Draft :=
  match d.openGroups with
  | [] => .error .unopenedGroup
  | g :: outer => do
    let w ← d.alternation.finish.enclose fun f =>
      match g.index with
      | some index => .group index f
      | none => f
    return { d with alternation := g.outer.push (.piece w), openGroups := outer }

/-- Repeats the last part. -/
def repeatLast (d : Draft) (min : Nat) (max : Option Nat) (greedy : Bool) :
    Except PatternError Draft :=
  match d.alternation.current with
  | .piece w :: parts => do
    let w ← w.enclose fun f => f.repeated min max greedy
    return { d with alternation := { d.alternation with current := .piece w :: parts } }
  | _ => .error .nothingToRepeat

/-- Reads one more item. -/
def take (d : Draft) : Item → Except PatternError Draft
  | .piece f height => .ok (d.push f height)
  | .groupStart .capturing => .ok (d.openGroup (some (d.captures + 1)))
  | .groupStart (.named name) =>
    if name ∈ d.names then .error (.repeatedName name)
    else .ok { d.openGroup (some (d.captures + 1)) with names := name :: d.names }
  | .groupStart (.plain _) => .ok (d.openGroup none)
  | .groupEnd => d.closeGroup
  | .bar => .ok { d with alternation := d.alternation.split }
  | .flags _ => .ok { d with alternation := d.alternation.push .change }
  | .repetition min max greedy => d.repeatLast min max greedy

/-- The form that has been read, when every group has ended. -/
def finish (d : Draft) : Except PatternError Written :=
  match d.openGroups with
  | [] => d.alternation.finish.bounded
  | _ :: _ => .error .unclosedGroup

end Draft

/-- The form that characters write. -/
def formOf (cs : List Char) : Except PatternError Form := do
  let items ← Item.list cs
  let draft ← items.foldlM Draft.take {}
  return (← draft.finish).form

/-- The form that a text writes, unless it would take too much memory. -/
def parseForm (text : String) : Except PatternError Form := do
  let f ← formOf text.toList
  if f.fits then .ok f else .error .tooLarge

/-- Reads a written pattern. -/
def parse (text : String) : Except PatternError Pattern :=
  ofForm <$> parseForm text

end Highlight.Pattern
