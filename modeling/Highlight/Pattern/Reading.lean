import Highlight.Pattern.Basic
import Highlight.Pattern.StateSet

/-!
# Readings of a pattern

A line is read along all paths of a pattern at once.  At each place of the line stands a
front: the threads that have come so far, in the order of preference.  A thread reaches a state at
a place only if no preferred thread has been in that state there, for what follows would be the
same; so at most one thread is in each state, and reading a line takes a time that is bounded by
the product of its length and the number of states.

`Pattern.matchAt` is the preferred reading at a place, and `Pattern.search` finds the first place
from which there is a reading at all.
-/

namespace Highlight

/-- The piece of a line from offset `start` to offset `stop`. -/
structure Span where
  start : Nat
  stop : Nat
deriving DecidableEq, Repr

/-- One way to read a pattern. -/
structure Reading where
  /-- The offset where the reading starts. -/
  start : Nat
  /-- The offset where the reading ends. -/
  stop : Nat
  /-- The offsets of the marks that were passed, the latest first. -/
  marks : List (Mark × Nat)
deriving DecidableEq, Repr

/-- The span captured last by a group. -/
def Reading.span? (r : Reading) (group : Nat) : Option Span := do
  return ⟨← r.marks.lookup (.opening group), ← r.marks.lookup (.closing group)⟩

namespace Pattern

/-- A reading on its way: the state it is in, the offset where it has started, and the marks that
it has passed, the latest first. -/
structure Thread where
  state : Nat
  start : Nat
  marks : List (Mark × Nat)
deriving DecidableEq, Repr

/-- What has come of the threads that arrive at a place. -/
structure Front where
  /-- The states that threads have been in at the place. -/
  seen : StateSet := .empty
  /-- The threads that take the character behind the place, the latest first, in their states
  behind the character. -/
  onward : List Thread := []
  /-- The reading that is complete at the place.  The threads that would come after it are
  dropped. -/
  complete : Option Reading := none
deriving DecidableEq, Repr

/-- The front with a thread and all that it branches into.  Each state is gone through only once
at a place, so `budget` need not be larger than the number of states. -/
def follow (p : Pattern) (c : Cursor) : (budget : Nat) → Thread → Front → Front
  | 0, _, front => front
  | budget + 1, t, front =>
    if front.complete.isSome || front.seen.contains t.state then front
    else
      let front := { front with seen := front.seen.insert t.state }
      match p.steps[t.state]? with
      | none => front
      | some .accept => { front with complete := some ⟨t.start, c.offset, t.marks⟩ }
      | some (.take s next) =>
        match c.rest with
        | [] => front
        | x :: _ =>
          if s.contains x then { front with onward := { t with state := next } :: front.onward }
          else front
      | some (.check a next) =>
        if a.holds c then p.follow c budget { t with state := next } front else front
      | some (.mark m next) =>
        p.follow c budget ⟨next, t.start, (m, c.offset) :: t.marks⟩ front
      | some (.branch first second) =>
        p.follow c budget { t with state := second }
          (p.follow c budget { t with state := first } front)

/-- The front of the threads that arrive at a place, the preferred one first. -/
def front (p : Pattern) (c : Cursor) (arrivals : List Thread) : Front :=
  arrivals.foldl (fun front t => p.follow c p.steps.size t front) {}

/-- The thread that starts at a place. -/
def entry (p : Pattern) (offset : Nat) : Thread :=
  ⟨p.start, offset, []⟩

/-- The preferred reading that one of the arriving threads comes to, or else `best`. -/
def run (p : Pattern) (arrivals : List Thread) (best : Option Reading) (before : Option Char)
    (offset : Nat) : List Char → Option Reading
  | [] => (p.front ⟨before, offset, []⟩ arrivals).complete.or best
  | x :: rest =>
    let front := p.front ⟨before, offset, x :: rest⟩ arrivals
    let best := front.complete.or best
    match front.onward with
    | [] => best
    | onward => p.run onward.reverse best (some x) (offset + x.utf8Size) rest

/-- The preferred reading at a place. -/
def matchAt (p : Pattern) (c : Cursor) : Option Reading :=
  p.run [p.entry c.offset] none c.before c.offset c.rest

/-- The reading that starts first, when another thread starts at each place as long as no reading
is complete. -/
def runFrom (p : Pattern) (arrivals : List Thread) (before : Option Char) (offset : Nat) :
    List Char → Option Reading
  | [] => (p.front ⟨before, offset, []⟩ (arrivals ++ [p.entry offset])).complete
  | x :: rest =>
    let front := p.front ⟨before, offset, x :: rest⟩ (arrivals ++ [p.entry offset])
    match front.complete with
    | none => p.runFrom front.onward.reverse (some x) (offset + x.utf8Size) rest
    | some r => p.run front.onward.reverse (some r) (some x) (offset + x.utf8Size) rest

/-- The offset of the first place from the cursor on where the pattern can be read. -/
def search (p : Pattern) (c : Cursor) : Option Nat :=
  (p.runFrom [] c.before c.offset c.rest).map (·.start)

/-- The pattern can be read somewhere in the line. -/
def occursIn (p : Pattern) (line : List Char) : Bool :=
  (p.search (Cursor.start line)).isSome

end Pattern

end Highlight
