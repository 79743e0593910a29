import Highlight.Pattern.Form

/-!
# Patterns

A pattern is a form laid out as states, each with a step: taking a character, checking an
assertion, marking a place, or a choice of two ways to go on.  A piece of a line is read along a
path of states from the start to one that accepts.
-/

namespace Highlight

/-- An end of the piece that a group captures. -/
inductive Mark where
  | opening (group : Nat)
  | closing (group : Nat)
deriving DecidableEq, Repr

namespace Pattern

/-- What happens in a state, and the states in which reading goes on. -/
inductive Step where
  /-- One character of the set is taken. -/
  | take (s : CharSet) (next : Nat)
  | check (a : Assertion) (next : Nat)
  | mark (m : Mark) (next : Nat)
  /-- Reading goes on in either state, preferably in the first. -/
  | branch (first second : Nat)
  | accept
deriving DecidableEq, Repr

end Pattern

namespace Pattern.Form

/-! ### Laying out forms

The states of a form lead to a given state when a piece of the form has been read.  They are put
behind the states that are already there, so the states of what follows come first. -/

/-- The choice between a piece and going past it. -/
def fork (greedy : Bool) (inside past : Nat) : Step :=
  if greedy then .branch inside past else .branch past inside

/-- The number of states of a form. -/
def size : Form → Nat
  | empty => 0
  | set _ | assertion _ => 1
  | group _ f => f.size + 2
  | seq f g => f.size + g.size
  | alt f g => f.size + g.size + 1
  | times f 0 none _ => f.size + (if f.takesText then 1 else 2)
  | times f (n + 1) none _ => (n + 1) * f.size + 1
  | times f min (some max) _ => min * f.size + (max - min) * (f.size + 1)

/-- The states of `n` pieces that are each laid out by `piece`. -/
def copies (piece : Nat → Array Step → Nat × Array Step) :
    (n : Nat) → (next : Nat) → Array Step → Nat × Array Step
  | 0, next, steps => (next, steps)
  | n + 1, next, steps =>
    let (start, steps) := piece next steps
    copies piece n start steps

/-- The states of at most `n` pieces, from each of which reading may go past the others to the
state `past`. -/
def options (piece : Nat → Array Step → Nat × Array Step) (greedy : Bool) (past : Nat) :
    (n : Nat) → (next : Nat) → Array Step → Nat × Array Step
  | 0, next, steps => (next, steps)
  | n + 1, next, steps =>
    let (inside, steps) := piece next steps
    options piece greedy past n steps.size (steps.push (fork greedy inside past))

/-- The states of a form that lead to the state `next`, behind those of `steps`, and the state in
which reading the form starts.  A loop whose body takes text starts with the choice; the choice
of any other loop is repeated in front of it, because at one place a state is gone through only
once. -/
def layout : Form → (next : Nat) → Array Step → Nat × Array Step
  | empty, next, steps => (next, steps)
  | set s, next, steps => (steps.size, steps.push (.take s next))
  | assertion a, next, steps => (steps.size, steps.push (.check a next))
  | group index f, next, steps =>
    let (inside, steps) := f.layout steps.size (steps.push (.mark (.closing index) next))
    (steps.size, steps.push (.mark (.opening index) inside))
  | seq f g, next, steps =>
    let (middle, steps) := g.layout next steps
    f.layout middle steps
  | alt f g, next, steps =>
    let (left, steps) := f.layout next steps
    let (right, steps) := g.layout next steps
    (steps.size, steps.push (.branch left right))
  | times f min none greedy, next, steps =>
    let (inside, steps) := f.layout (steps.size + f.size) steps
    let loop := steps.size
    let steps := steps.push (fork greedy inside next)
    match min with
    | 0 =>
      if f.takesText then (loop, steps) else (steps.size, steps.push (fork greedy inside next))
    | n + 1 => copies (fun next steps => f.layout next steps) n inside steps
  | times f min (some max) greedy, next, steps =>
    let (start, steps) :=
      options (fun next steps => f.layout next steps) greedy next (max - min) next steps
    copies (fun next steps => f.layout next steps) min start steps

/-! ### The number of states -/

theorem size_copies {piece : Nat → Array Step → Nat × Array Step} {k : Nat}
    (h : ∀ next steps, (piece next steps).2.size = steps.size + k) (n next : Nat)
    (steps : Array Step) :
  (copies piece n next steps).2.size = steps.size + n * k
  := by
  induction n generalizing next steps with
  | zero => simp [copies]
  | succ n ih => simp only [copies, ih, h, Nat.add_mul]; omega

theorem size_options {piece : Nat → Array Step → Nat × Array Step} {k : Nat}
    (h : ∀ next steps, (piece next steps).2.size = steps.size + k) (greedy : Bool)
    (past n next : Nat) (steps : Array Step) :
  (options piece greedy past n next steps).2.size = steps.size + n * (k + 1)
  := by
  induction n generalizing next steps with
  | zero => simp [options]
  | succ n ih => simp only [options, ih, h, Array.size_push, Nat.add_mul]; omega

/-- Laying out a form adds as many states as it has. -/
theorem size_layout (f : Form) (next : Nat) (steps : Array Step) :
  (f.layout next steps).2.size = steps.size + f.size
  := by
  induction f generalizing next steps with
  | empty => simp [layout, size]
  | set | assertion => simp [layout, size]
  | group _ f ih => simp only [layout, size, Array.size_push, ih]; omega
  | seq f g ihf ihg => simp only [layout, size, ihf, ihg]; omega
  | alt f g ihf ihg => simp only [layout, size, Array.size_push, ihf, ihg]; omega
  | times f least most greedy ih =>
    cases most with
    | none =>
      cases least with
      | zero =>
        simp only [layout, size]
        split <;> simp only [Array.size_push, ih] <;> omega
      | succ n =>
        simp only [layout, size, size_copies ih, Array.size_push, ih, Nat.add_mul]
        omega
    | some most =>
      simp only [layout, size, size_copies ih, size_options ih]
      omega

end Pattern.Form

/-- A pattern. -/
structure Pattern where
  /-- What the pattern describes. -/
  form : Pattern.Form
  /-- The state in which reading starts. -/
  start : Nat
  /-- The steps of the states. -/
  steps : Array Pattern.Step
  /-- The states are those of the form, behind the one that accepts. -/
  laidOut : form.layout 0 #[.accept] = (start, steps)
deriving DecidableEq, Repr

namespace Pattern

/-- The pattern of a form. -/
def ofForm (f : Form) : Pattern :=
  let laid := f.layout 0 #[.accept]
  ⟨f, laid.1, laid.2, rfl⟩

end Pattern

end Highlight
