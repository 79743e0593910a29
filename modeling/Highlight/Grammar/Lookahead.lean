import Highlight.Rule

/-!
# Lookahead

Where each rule of a mode is next read on a line.  A search from one place that finds a
reading at another one has also shown that there is none in between, so its result holds until
the line has been classified beyond it.
-/

namespace Highlight

/-- What is known about the next place where a rule is read. -/
inductive NextPlace where
  | unknown
  | known (offset : Nat)
  /-- The rule is not read on the rest of the line. -/
  | nowhere
deriving DecidableEq, Repr

/-- What a search has shown. -/
def NextPlace.ofSearch : Option Nat → NextPlace
  | some offset => known offset
  | none => nowhere

/-- What is known about the rules of a mode. -/
structure Lookahead where
  mode : Nat
  /-- The next place of each rule, in their order. -/
  places : Array NextPlace
deriving DecidableEq, Repr

namespace Lookahead

/-- Nothing is known about the rules of a mode. -/
def fresh (mode rules : Nat) : Lookahead :=
  ⟨mode, Array.replicate rules .unknown⟩

/-- The lookahead for a mode with a number of rules: the given one if it was made for
that mode. -/
def forMode (l : Lookahead) (mode rules : Nat) : Lookahead :=
  if l.mode = mode ∧ l.places.size = rules then l else fresh mode rules

/-- Searches the rule with index `i` from the cursor on. -/
def search (l : Lookahead) (i : Nat) (r : Rule) (c : Cursor) : Option Nat × Lookahead :=
  let found := r.search c
  (found, { l with places := l.places.setIfInBounds i (.ofSearch found) })

/-- The first place from the cursor on where the rule with index `i` is read. -/
def next (l : Lookahead) (i : Nat) (r : Rule) (c : Cursor) : Option Nat × Lookahead :=
  match l.places[i]? with
  | some (.known n) => if c.offset ≤ n then (some n, l) else l.search i r c
  | some .nowhere => (none, l)
  | _ => l.search i r c

end Lookahead

end Highlight
