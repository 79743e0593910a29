import Highlight.Pattern.CharSet

/-!
# The ranges of sets of characters

The characters of a set lie in finitely many ranges of code points.  So two sets are seen to have
no character in common by comparing the ends of ranges.
-/

namespace Highlight

namespace Unicode

/-- The code point `n` lies in one of the ranges. -/
def Among (ranges : List (Nat × Nat)) (n : Nat) : Prop :=
  ∃ r ∈ ranges, r.1 ≤ n ∧ n ≤ r.2

/-- The ranges start at `n` or behind it, and each one behind the end of the one before it. -/
def ascendFrom (n : Nat) : List (Nat × Nat) → Bool
  | [] => true
  | r :: ranges => n ≤ r.1 && r.1 ≤ r.2 && ascendFrom (r.2 + 1) ranges

/-- No range of the one list meets a range of the other one. -/
def areApart (ranges others : List (Nat × Nat)) : Bool :=
  ranges.all fun r => others.all fun s => r.2.blt s.1 || s.2.blt r.1

/-- Each range lies in one of the other ranges. -/
def areWithin (ranges others : List (Nat × Nat)) : Bool :=
  ranges.all fun r => others.any fun s => s.1.ble r.1 && r.2.ble s.2

variable {ranges others : List (Nat × Nat)} {n first : Nat}

/-- What the look-up finds lies in one of the ranges. -/
theorem among_of_inRanges (h : inRanges ranges n) :
  Among ranges n
  := by
  induction ranges with
  | nil => cases h
  | cons r ranges ih =>
    rw [inRanges] at h
    split at h
    next => cases h
    next hfirst =>
      split at h
      next hlast => exact ⟨r, List.mem_cons_self, Nat.le_of_not_lt hfirst, hlast⟩
      next =>
        obtain ⟨s, hs, hn⟩ := ih h
        exact ⟨s, List.mem_cons_of_mem r hs, hn⟩

/-- What lies in ascending ranges is not less than their first bound. -/
theorem le_of_ascendFrom (h : ascendFrom first ranges) (hn : Among ranges n) :
  first ≤ n
  := by
  induction ranges generalizing first with
  | nil =>
    obtain ⟨r, hr, -⟩ := hn
    cases hr
  | cons r ranges ih =>
    simp only [ascendFrom, Bool.and_eq_true, decide_eq_true_eq] at h
    obtain ⟨⟨hfirst, hle⟩, h⟩ := h
    obtain ⟨s, hs, hn⟩ := hn
    rcases List.mem_cons.mp hs with rfl | hs
    · apply Nat.le_trans hfirst hn.1
    · have := ih h ⟨s, hs, hn⟩
      omega

/-- The look-up misses nothing in ranges that ascend. -/
theorem inRanges_of_among (h : ascendFrom first ranges) (hn : Among ranges n) :
  inRanges ranges n
  := by
  induction ranges generalizing first with
  | nil =>
    obtain ⟨r, hr, -⟩ := hn
    cases hr
  | cons r ranges ih =>
    simp only [ascendFrom, Bool.and_eq_true, decide_eq_true_eq] at h
    obtain ⟨⟨-, hle⟩, h⟩ := h
    obtain ⟨s, hs, hn⟩ := hn
    rw [inRanges]
    rcases List.mem_cons.mp hs with rfl | hs
    · rw [if_neg (Nat.not_lt.mpr hn.1), if_pos hn.2]
    · have hlt := le_of_ascendFrom h ⟨s, hs, hn⟩
      rw [if_neg (by omega), if_neg (by omega)]
      apply ih h ⟨s, hs, hn⟩

/-- What lies in some ranges does not lie in others that are apart from them. -/
theorem not_among_of_areApart (h : areApart ranges others) (hn : Among ranges n) :
  ¬Among others n
  := by
  rintro ⟨s, hs, hfirst, hlast⟩
  obtain ⟨r, hr, hfirst', hlast'⟩ := hn
  have hends := List.all_eq_true.mp (List.all_eq_true.mp h r hr) s hs
  simp only [Bool.or_eq_true, Nat.blt_eq] at hends
  omega

/-- What lies in some ranges lies in others if they are within these. -/
theorem among_of_areWithin (h : areWithin ranges others) (hn : Among ranges n) :
  Among others n
  := by
  obtain ⟨r, hr, hfirst, hlast⟩ := hn
  obtain ⟨s, hs, hends⟩ := List.any_eq_true.mp (List.all_eq_true.mp h r hr)
  simp only [Bool.and_eq_true, Nat.ble_eq] at hends
  exact ⟨s, hs, Nat.le_trans hends.1 hfirst, Nat.le_trans hlast hends.2⟩

theorem ascendFrom_wordRanges :
  ascendFrom 0 wordRanges
  := by decide +kernel

end Unicode

namespace CharSet

open Unicode

/-- Ranges that the characters of the set lie in, in no order.  A complement is bounded by the
range of all characters. -/
def bounds : CharSet → List (Nat × Nat)
  | range first last => [(first.toNat, last.toNat)]
  | word => wordRanges
  | digit => digitRanges
  | space => spaceRanges
  | union a b => a.bounds ++ b.bounds
  | anyCase _ _ | compl _ => [(0, 0x10FFFF)]

/-- All characters of the set are word characters, as the ranges say that they lie in. -/
def isInWords (s : CharSet) : Bool :=
  areWithin s.bounds wordRanges

/-- The sets have no character in common, as the ranges say that their characters lie in. -/
def avoids (s t : CharSet) : Bool :=
  areApart s.bounds t.bounds

variable {s t : CharSet} {x : Char}

/-- The characters of a set lie in its bounds. -/
theorem among_bounds (h : s.contains x) :
  Among s.bounds x.toNat
  := by
  have hvalid : x.toNat < 0xD800 ∨ 0xDFFF < x.toNat ∧ x.toNat < 0x110000 := x.valid
  have hall : Among [(0, 0x10FFFF)] x.toNat := ⟨_, List.mem_singleton_self _, by omega⟩
  induction s with
  | range first last =>
    simp only [contains, Bool.and_eq_true, decide_eq_true_eq] at h
    exact ⟨_, List.mem_singleton_self _, h⟩
  | anyCase | compl => apply hall
  | word | digit | space => apply among_of_inRanges h
  | union a b iha ihb =>
    rw [contains, Bool.or_eq_true] at h
    rcases h with h | h
    · obtain ⟨r, hr, hn⟩ := iha h
      exact ⟨r, List.mem_append_left _ hr, hn⟩
    · obtain ⟨r, hr, hn⟩ := ihb h
      exact ⟨r, List.mem_append_right _ hr, hn⟩

/-- The characters of a set that is within the words are word characters. -/
theorem isWord_of_isInWords (h : s.isInWords) (hx : s.contains x) :
  isWord x
  := inRanges_of_among ascendFrom_wordRanges (among_of_areWithin h (among_bounds hx))

/-- The characters of a set are not in one that it avoids. -/
theorem not_contains_of_avoids (h : s.avoids t) (hx : s.contains x) :
  t.contains x = false
  := by
  rw [Bool.eq_false_iff]
  intro hx'
  apply not_among_of_areApart h (among_bounds hx) (among_bounds hx')

end CharSet

end Highlight
