/-!
# Cursors

A cursor is a place in a line, together with what can be seen from there: the character
before it and the characters after it.  Cursors only move forward.
-/

namespace Highlight

/-- A place in a line. -/
structure Cursor where
  /-- The character before the place, if there is one. -/
  before : Option Char
  /-- The number of bytes before the place. -/
  offset : Nat
  /-- The characters after the place. -/
  rest : List Char
deriving DecidableEq, Repr

namespace Cursor

/-- The start of a line. -/
def start (line : List Char) : Cursor :=
  ⟨none, 0, line⟩

/-- The place behind the character `x`, which `rest` follows. -/
def past (c : Cursor) (x : Char) (rest : List Char) : Cursor :=
  ⟨some x, c.offset + x.utf8Size, rest⟩

/-- The first place at or after offset `n` that is reached from the given one. -/
def seek (n : Nat) (before : Option Char) (offset : Nat) : List Char → Cursor
  | [] => ⟨before, offset, []⟩
  | x :: rest =>
    if n ≤ offset then ⟨before, offset, x :: rest⟩
    else seek n (some x) (offset + x.utf8Size) rest

/-- The cursor moved to the first place at or after offset `n`. -/
def moveTo (c : Cursor) (n : Nat) : Cursor :=
  seek n c.before c.offset c.rest

/-- The end of the line that is reached from the given place. -/
def seekEnd (before : Option Char) (offset : Nat) : List Char → Cursor
  | [] => ⟨before, offset, []⟩
  | x :: rest => seekEnd (some x) (offset + x.utf8Size) rest

/-- The cursor moved to the end of its line. -/
def moveToEnd (c : Cursor) : Cursor :=
  seekEnd c.before c.offset c.rest

/-- The place of a line at offset `n`, if `n` is a boundary of the line. -/
def at? (line : List Char) (n : Nat) : Option Cursor :=
  let c := (start line).moveTo n
  if c.offset = n then some c else none

/-- The lengths of what is left never grow when moving on. -/
theorem length_rest_seek_le (n : Nat) (before : Option Char) (offset : Nat) (rest : List Char) :
  (seek n before offset rest).rest.length ≤ rest.length
  := by
  induction rest generalizing before offset with
  | nil => simp [seek]
  | cons x rest ih =>
    unfold seek
    split
    · simp
    · have := ih (some x) (offset + x.utf8Size)
      simp
      omega

theorem length_rest_moveTo_le (c : Cursor) (n : Nat) :
  (c.moveTo n).rest.length ≤ c.rest.length
  := length_rest_seek_le n c.before c.offset c.rest

theorem rest_seekEnd (before : Option Char) (offset : Nat) (rest : List Char) :
  (seekEnd before offset rest).rest = []
  := by
  induction rest generalizing before offset with
  | nil => rfl
  | cons x rest ih => exact ih _ _

theorem rest_moveToEnd (c : Cursor) :
  c.moveToEnd.rest = []
  := rest_seekEnd c.before c.offset c.rest

end Cursor

end Highlight
