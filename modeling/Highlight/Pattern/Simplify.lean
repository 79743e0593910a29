import Highlight.Pattern.Encoding
import Highlight.Pattern.Form

/-!
# Simplified forms

How forms are put together when a pattern is read from a text: what takes no text is not read
more than once, and what all alternatives start with is read before one of them is chosen.
-/

namespace Highlight.Pattern.Form

/-- The parts of a form that are read one after another. -/
def parts : Form → List Form
  | empty => []
  | seq f g => f.parts ++ g.parts
  | f => [f]

/-- The alternatives of a form, in order. -/
def alternatives : Form → List Form
  | alt f g => f.alternatives ++ g.alternatives
  | f => [f]

/-- The form with each of its sets given by ascending ranges, so that forms agree when their sets
have the same characters. -/
def resolved : Form → Form
  | set s => set (CharSet.ofRanges s.ranges)
  | group index f => group index f.resolved
  | seq f g => seq f.resolved g.resolved
  | alt f g => alt f.resolved g.resolved
  | times f min max greedy => times f.resolved min max greedy
  | f => f

/-- The form is a single character. -/
def isChar : Form → Bool
  | set (.range a b) => a == b
  | _ => false

/-- The parts of a sequence, with characters that follow each other taken as one. -/
def units : List Form → List (List Form)
  | [] => []
  | f :: fs =>
    match units fs with
    | (g :: gs) :: us =>
      if f.isChar && g.isChar then (f :: g :: gs) :: us else [f] :: (g :: gs) :: us
    | us => [f] :: us

/-- What two lists start with. -/
def commonStart {α : Type} [DecidableEq α] : List α → List α → List α
  | a :: as, b :: bs => if a = b then a :: commonStart as bs else []
  | _, _ => []

/-- The first of the forms that can be read, without what all of them start with. -/
def choice (fs : List Form) : Form :=
  let fs := fs.flatMap alternatives
  let all := fs.map fun f => units f.resolved.parts
  let start := match all with
    | us :: u :: uss => (u :: uss).foldl commonStart us
    | _ => []
  if start = [] ∨ all.any (·.length ≤ 1) then firstOf fs
  else
    let rests := all.map fun us => inSequence (us.drop start.length).flatten
    inSequence (start.flatten ++ [firstOf rests])

/-- From `least` to `most` repetitions of a form. -/
def repeated (f : Form) (least : Nat) (most : Option Nat) (greedy : Bool) : Form :=
  let least := if f.isWidthless then min least 1 else least
  let most := if f.isWidthless then some (min (most.getD 1) 1) else most
  if most = some 0 then empty
  else if least = 1 ∧ most = some 1 then f
  else times f least most greedy

end Highlight.Pattern.Form
