/-!
# Ranges of code points

A property of characters is given by the closed ranges of the code points that have it,
in ascending order and apart from each other.  The look-up stops at the first range that
starts above the code point, so the common characters are found at once.
-/

namespace Highlight.Unicode

/-- The code point `n` lies in one of the ascending ranges. -/
def inRanges : List (Nat × Nat) → Nat → Bool
  | [], _ => false
  | (first, last) :: ranges, n =>
    if n < first then false else if n ≤ last then true else inRanges ranges n

/-- The largest code point. -/
def lastCode : Nat := 0x10FFFF

/-! ### Putting ranges together -/

/-- The code points from `first` to `last` and those of ranges that start later, in the order of
their starts, with the ranges that meet taken together. -/
def fuseFrom (first last : Nat) : List (Nat × Nat) → List (Nat × Nat)
  | [] => [(first, last)]
  | (a, b) :: ranges =>
    if a ≤ last + 1 then fuseFrom first (max last b) ranges
    else (first, last) :: fuseFrom a b ranges

/-- Ranges in the order of their starts, with those that meet taken together. -/
def fuse : List (Nat × Nat) → List (Nat × Nat)
  | [] => []
  | (first, last) :: ranges => fuseFrom first last ranges

/-- A range put in front of the first one that does not start before it, where `rest` puts in the
ranges that follow it. -/
def mergeFrom (a : Nat × Nat) (rest : List (Nat × Nat) → List (Nat × Nat)) :
    List (Nat × Nat) → List (Nat × Nat)
  | [] => a :: rest []
  | b :: bs => if a.1 ≤ b.1 then a :: rest (b :: bs) else b :: mergeFrom a rest bs

/-- Two lists of ranges in the order of their starts. -/
def mergeStarts : List (Nat × Nat) → List (Nat × Nat) → List (Nat × Nat)
  | [], bs => bs
  | a :: as, bs => mergeFrom a (mergeStarts as) bs

/-- The code points that are in one of two lists of ascending ranges. -/
def mergeRanges (as bs : List (Nat × Nat)) : List (Nat × Nat) :=
  fuse (mergeStarts as bs)

/-- The ranges of single characters. -/
def pointRanges (cs : List Char) : List (Nat × Nat) :=
  fuse ((cs.map fun c => (c.toNat, c.toNat)).mergeSort fun a b => a.1 ≤ b.1)

/-- The ranges of the code points from `first` on between ascending ranges. -/
def gaps (first : Nat) : List (Nat × Nat) → List (Nat × Nat)
  | [] => if first ≤ lastCode then [(first, lastCode)] else []
  | (a, b) :: ranges =>
    if first < a then (first, a - 1) :: gaps (b + 1) ranges else gaps (b + 1) ranges

/-- The code points in one of the lists of ascending ranges. -/
def unite (lists : List (List (Nat × Nat))) : List (Nat × Nat) :=
  lists.foldr mergeRanges []

/-- The code points in none of the ascending ranges. -/
def outside (ranges : List (Nat × Nat)) : List (Nat × Nat) :=
  gaps 0 ranges

/-- The code points in both lists of ascending ranges. -/
def both (as bs : List (Nat × Nat)) : List (Nat × Nat) :=
  outside (unite [outside as, outside bs])

/-- The code points in the first list of ascending ranges and not in the second one. -/
def without (as bs : List (Nat × Nat)) : List (Nat × Nat) :=
  outside (unite [outside as, bs])

/-- Every second code point of the ranges, of which the last ones belong to them. -/
def everySecond (ranges : List (Nat × Nat)) : List (Nat × Nat) :=
  ranges.flatMap fun (first, last) =>
    (List.range ((last - first) / 2 + 1)).map fun i => (first + 2 * i, first + 2 * i)

end Highlight.Unicode
