import Highlight.Pattern.Encoding
import Highlight.Pattern.Form

/-!
# The memory that a pattern may take

A pattern is refused when an automaton on bytes for it would need more than ten mebibytes, be it
the one that reads lines forward or the one that reads them backward.  The automata themselves are
not built: their sizes follow from the form, so that a form with huge counts is refused as fast as
any other.
-/

namespace Highlight.Pattern

/-- The bytes that an automaton may take. -/
def memoryLimit : Nat := 10485760

/-- The bytes of a state. -/
def stateBytes : Nat := 32

/-- The bytes of a transition of a state that has several. -/
def transitionBytes : Nat := 8

/-- The bytes of a transition of a state that has several and takes no byte. -/
def branchBytes : Nat := 4

/-! ### Sets -/

/-- The sequences behind each of the first byte ranges of ascending sequences. -/
def behindFirst : List ByteSequence → List (List ByteSequence)
  | [] => []
  | s :: seqs =>
    match behindFirst seqs, seqs with
    | group :: groups, t :: _ =>
      if s.head? = t.head? then (s.tail :: group) :: groups else [s.tail] :: group :: groups
    | _, _ => [[s.tail]]

/-- The sets of sequences that can be left when some bytes have been read, where no sequence has
more than `depth` bytes. -/
def remainders : (depth : Nat) → List ByteSequence → List (List ByteSequence)
  | 0, _ => []
  | depth + 1, seqs =>
    if seqs.all (·.isEmpty) then []
    else seqs :: (behindFirst seqs).flatMap (remainders depth)

/-- The bytes of the states that read one of the sequences forward.  There is one state for each
set of sequences that can be left. -/
def forwardBytes (seqs : List ByteSequence) : Nat :=
  (remainders 4 seqs).eraseDups.foldr
    (fun left bytes => stateBytes + transitionBytes * (behindFirst left).length + bytes) 0

/-- The number of byte ranges that start both sequences. -/
def commonBytes : ByteSequence → ByteSequence → Nat
  | a :: as, b :: bs => if a = b then commonBytes as bs + 1 else 0
  | _, _ => 0

/-- The number of different starts of ascending sequences. -/
def starts : List ByteSequence → Nat
  | [] => 0
  | [s] => s.length
  | s :: t :: seqs => s.length - commonBytes s t + starts (t :: seqs)

/-- The bytes of the states that read one of the sequences backward.  There is one state for
each start of a sequence. -/
def backwardBytes (seqs : List ByteSequence) : Nat :=
  stateBytes + branchBytes * seqs.length + stateBytes * starts seqs

/-- The bytes of the states that take a character of a set, where `wide` gives the bytes for
sequences. -/
def setBytes (wide : List ByteSequence → Nat) (s : CharSet) : Nat :=
  match s.ranges with
  | [(a, b)] =>
    if a = b then stateBytes * (Char.ofNat a).utf8Size else severalBytes [(a, b)]
  | ranges => severalBytes ranges
where
  severalBytes (ranges : List (Nat × Nat)) : Nat :=
    if ranges.all (·.2 ≤ 0x7F) then 2 * stateBytes + transitionBytes * ranges.length
    else stateBytes + wide (ranges.flatMap ByteSequence.ofRange)

namespace Form

/-- The bytes of the choices between pieces and what follows them, for `n` pieces. -/
def choiceBytes (n : Nat) : Nat :=
  n * (stateBytes + 2 * branchBytes)

/-- The bytes of the states of a form, where `ofSet` gives those for a set and `mark` those for a
mark.  An alternation has one state that leads to all its alternatives, however they are grouped,
and one state behind them; `inside` says that the form is an alternative. -/
def bytes (ofSet : CharSet → Nat) (mark : Nat) : Form → (inside : Bool) → Nat
  | alt f g, inside =>
    f.bytes ofSet mark true + g.bytes ofSet mark true + if inside then 0 else 2 * stateBytes
  | empty, inside => alternative inside stateBytes
  | set s, inside => alternative inside (ofSet s)
  | assertion _, inside => alternative inside stateBytes
  | group _ f, inside => alternative inside (f.bytes ofSet mark false + 2 * mark)
  | seq f g, inside => alternative inside (f.bytes ofSet mark false + g.bytes ofSet mark false)
  | times f least none _, inside =>
    let body := f.bytes ofSet mark false
    alternative inside <|
      if least = 0 ∧ !f.takesText then body + choiceBytes 2 + stateBytes
      else max least 1 * body + choiceBytes 1
  | times f least (some most) _, inside =>
    let body := f.bytes ofSet mark false
    alternative inside <|
      most * body + choiceBytes (most - least) + if least < most then stateBytes else 0
where
  /-- The bytes of a form that is not an alternation. -/
  alternative (inside : Bool) (n : Nat) : Nat :=
    if inside then n + branchBytes else n

/-- A pattern of the form may be built. -/
def fits (f : Form) : Bool :=
  f.bytes (setBytes forwardBytes) stateBytes false ≤ memoryLimit &&
    f.bytes (setBytes backwardBytes) 0 false ≤ memoryLimit

end Form

end Highlight.Pattern
