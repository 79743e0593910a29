/-!
# Sets of states

A finite set of states of a pattern, kept as the bits of one number.
-/

namespace Highlight.Pattern

/-- A finite set of states: state `n` belongs to it when bit `n` is set. -/
structure StateSet where
  bits : Nat
deriving DecidableEq, Repr

namespace StateSet

def empty : StateSet := ⟨0⟩

def contains (s : StateSet) (n : Nat) : Bool :=
  s.bits.testBit n

def insert (s : StateSet) (n : Nat) : StateSet :=
  ⟨s.bits ||| 1 <<< n⟩

@[simp]
theorem contains_empty (n : Nat) :
  empty.contains n = false
  := by simp [empty, contains]

@[simp]
theorem contains_insert (s : StateSet) (n m : Nat) :
  (s.insert n).contains m = (s.contains m || m == n)
  := by
  simp only [insert, contains, Nat.testBit_or, Nat.one_shiftLeft, Nat.testBit_two_pow]
  congr 1
  rw [Bool.eq_iff_iff]
  simp only [decide_eq_true_eq, beq_iff_eq]
  exact ⟨Eq.symm, Eq.symm⟩

end StateSet

end Highlight.Pattern
