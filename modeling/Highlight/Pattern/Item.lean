import Highlight.Pattern.Flags

/-!
# Items of a written pattern

A written pattern is a sequence of items: pieces, repetitions, and the marks that structure it.
Characters, classes and assertions are pieces whose forms depend on the flags in force.  Where
spacing is ignored, blanks and comments stand between items and in classes without being part of
them.
-/

namespace Highlight.Pattern

/-- What a character or an escape stands for, by itself or in a class. -/
inductive Atom where
  | literal (c : Char)
  /-- One character of the set. -/
  | set (s : CharSet)
  | assertion (a : Assertion)
deriving Repr

/-- The form of an atom that stands by itself. -/
def Atom.form (f : Flags) : Atom → Form
  | literal c => .set (f.range c c)
  | set s => .set s
  | assertion a => .assertion a

/-- What a group is for. -/
inductive GroupKind where
  | capturing
  | named (name : String)
  /-- The group only holds its parts together and changes flags for them. -/
  | plain (changes : FlagChanges)
deriving DecidableEq, Repr

/-- An item of a written pattern. -/
inductive Item where
  /-- A piece, written with brackets and operators of a height. -/
  | piece (form : Form) (height : Nat)
  | groupStart (kind : GroupKind)
  | groupEnd
  | bar
  /-- A change of flags for the items that follow. -/
  | flags (changes : FlagChanges)
  | repetition (min : Nat) (max : Option Nat) (greedy : Bool)
deriving Repr

end Highlight.Pattern
