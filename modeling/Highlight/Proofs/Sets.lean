import Highlight.Pattern.Simplify
import Highlight.Proofs.Form
import Highlight.Proofs.Ranges
import Mathlib.Order.Basic

/-!
# Sets given by ranges

Ascending ranges are united, and what is outside of them is found, in one pass over them.  The
ranges that come out ascend again, and just the right code points lie in them.  So the ranges of a
set are those of its characters, and a form with its sets given by ranges reads what it has read
before.
-/

namespace Highlight

namespace Unicode

variable {ranges as bs : List (Nat × Nat)} {r : Nat × Nat} {first last n m : Nat}

/-- The ranges start at `n` or behind it, in the order of their starts, and none is empty. -/
def StartFrom (n : Nat) : List (Nat × Nat) → Prop
  | [] => True
  | r :: ranges => n ≤ r.1 ∧ r.1 ≤ r.2 ∧ StartFrom r.1 ranges

/-- The ranges ascend, and all code points in them are those of characters or surrogates. -/
structure Ascend (ranges : List (Nat × Nat)) : Prop where
  ascend : ascendFrom 0 ranges
  le_lastCode : ∀ n, Among ranges n → n ≤ lastCode

/-! ### Code points in ranges -/

theorem not_among_nil (n : Nat) :
  ¬Among [] n
  := by
  rintro ⟨r, hr, -⟩
  cases hr

theorem among_cons :
  Among (r :: ranges) n ↔ (r.1 ≤ n ∧ n ≤ r.2) ∨ Among ranges n
  := by simp [Among]

theorem ascendFrom_cons :
  ascendFrom n (r :: ranges) ↔ n ≤ r.1 ∧ r.1 ≤ r.2 ∧ ascendFrom (r.2 + 1) ranges
  := by simp [ascendFrom, and_assoc]

/-- Ranges that ascend from a code point do so from any one before. -/
theorem ascendFrom_mono (h : ascendFrom n ranges) (hle : m ≤ n) :
  ascendFrom m ranges
  := by
  cases ranges with
  | nil => rfl
  | cons r ranges =>
    rw [ascendFrom_cons] at h ⊢
    exact ⟨hle.trans h.1, h.2⟩

theorem StartFrom.mono (h : StartFrom n ranges) (hle : m ≤ n) :
  StartFrom m ranges
  := by
  cases ranges with
  | nil => trivial
  | cons r ranges => exact ⟨hle.trans h.1, h.2⟩

/-- Ranges that ascend come in the order of their starts. -/
theorem startFrom_of_ascendFrom (h : ascendFrom n ranges) :
  StartFrom n ranges
  := by
  induction ranges generalizing n with
  | nil => trivial
  | cons r ranges ih =>
    obtain ⟨hfirst, hle, h⟩ := ascendFrom_cons.mp h
    exact ⟨hfirst, hle, (ih h).mono (by omega)⟩

/-! ### Unions -/

/-- A range is put among others, and what follows it is put in by `rest`. -/
theorem among_mergeFrom {rest : List (Nat × Nat) → List (Nat × Nat)}
    (hrest : ∀ bs, Among (rest bs) n ↔ Among as n ∨ Among bs n) (bs : List (Nat × Nat)) :
  Among (mergeFrom r rest bs) n ↔ Among (r :: as) n ∨ Among bs n
  := by
  induction bs with
  | nil =>
    rw [mergeFrom, among_cons, among_cons, hrest, or_assoc]
  | cons b bs ih =>
    rw [mergeFrom]
    split
    · rw [among_cons, among_cons, hrest, or_assoc]
    · rw [among_cons, ih, among_cons (r := b), or_left_comm]

/-- A range is put among others so that all stay in the order of their starts. -/
theorem startFrom_mergeFrom {rest : List (Nat × Nat) → List (Nat × Nat)} (hr : r.1 ≤ r.2)
    (hrest : ∀ bs, StartFrom r.1 bs → StartFrom r.1 (rest bs)) (hfirst : n ≤ r.1)
    (hbs : StartFrom n bs) :
  StartFrom n (mergeFrom r rest bs)
  := by
  induction bs generalizing n with
  | nil => exact ⟨hfirst, hr, hrest [] trivial⟩
  | cons b bs ih =>
    obtain ⟨hb, hle, hbs⟩ := hbs
    rw [mergeFrom]
    split
    next hstart => exact ⟨hfirst, hr, hrest _ ⟨hstart, hle, hbs⟩⟩
    next hstart => exact ⟨hb, hle, ih (by omega) hbs⟩

/-- What lies in one of two lists of ranges lies in both put together. -/
theorem among_mergeStarts (as bs : List (Nat × Nat)) :
  Among (mergeStarts as bs) n ↔ Among as n ∨ Among bs n
  := by
  induction as generalizing bs with
  | nil =>
    rw [mergeStarts]
    simp [not_among_nil]
  | cons a as ih => exact among_mergeFrom ih bs

/-- Ranges in the order of their starts are put together in this order. -/
theorem startFrom_mergeStarts (has : StartFrom n as) (hbs : StartFrom n bs) :
  StartFrom n (mergeStarts as bs)
  := by
  induction as generalizing n bs with
  | nil => exact hbs
  | cons a as ih =>
    obtain ⟨hfirst, hle, has⟩ := has
    exact startFrom_mergeFrom hle (fun bs hbs => ih has hbs) hfirst hbs

/-- Taking together the ranges that meet keeps what lies in them. -/
theorem among_fuseFrom (h : StartFrom first ranges) :
  Among (fuseFrom first last ranges) n ↔ (first ≤ n ∧ n ≤ last) ∨ Among ranges n
  := by
  induction ranges generalizing first last with
  | nil => rw [fuseFrom, among_cons]
  | cons r ranges ih =>
    obtain ⟨hfirst, hle, h⟩ := h
    rw [fuseFrom]
    split
    next hmeet =>
      have hboth : (first ≤ n ∧ n ≤ max last r.2) ↔
          (first ≤ n ∧ n ≤ last) ∨ (r.1 ≤ n ∧ n ≤ r.2) := by omega
      rw [ih (h.mono hfirst), hboth, among_cons, or_assoc]
    next => rw [among_cons, ih h, among_cons]

/-- The ranges ascend when those that meet are taken together. -/
theorem ascendFrom_fuseFrom (hle : first ≤ last) (h : StartFrom first ranges) :
  ascendFrom first (fuseFrom first last ranges)
  := by
  induction ranges generalizing first last with
  | nil => exact ascendFrom_cons.mpr ⟨le_rfl, hle, rfl⟩
  | cons r ranges ih =>
    obtain ⟨hfirst, hr, h⟩ := h
    rw [fuseFrom]
    split
    next => exact ih (hle.trans (le_max_left _ _)) (h.mono hfirst)
    next happart =>
      exact ascendFrom_cons.mpr ⟨le_rfl, hle, ascendFrom_mono (ih hr h) (by omega)⟩

/-- What lies in one of two lists of ranges lies in their union. -/
theorem among_mergeRanges (has : ascendFrom 0 as) (hbs : ascendFrom 0 bs) :
  Among (mergeRanges as bs) n ↔ Among as n ∨ Among bs n
  := by
  have h := startFrom_mergeStarts (startFrom_of_ascendFrom has) (startFrom_of_ascendFrom hbs)
  rw [mergeRanges, ← among_mergeStarts]
  cases hmerged : mergeStarts as bs with
  | nil => rfl
  | cons r ranges =>
    rw [hmerged] at h
    rw [fuse, among_fuseFrom h.2.2, among_cons]

namespace Ascend

/-- The union of ranges that ascend does so. -/
theorem mergeRanges (has : Ascend as) (hbs : Ascend bs) :
  Ascend (mergeRanges as bs)
  := by
  constructor
  · have h := startFrom_mergeStarts (startFrom_of_ascendFrom has.ascend)
      (startFrom_of_ascendFrom hbs.ascend)
    rw [Unicode.mergeRanges]
    cases hmerged : mergeStarts as bs with
    | nil => rfl
    | cons r ranges =>
      rw [hmerged] at h
      exact ascendFrom_mono (ascendFrom_fuseFrom h.2.1 h.2.2) (Nat.zero_le _)
  · intro n hn
    rcases (among_mergeRanges has.ascend hbs.ascend).mp hn with hn | hn
    · exact has.le_lastCode n hn
    · exact hbs.le_lastCode n hn

/-- The union of several lists of ranges that ascend does so. -/
theorem unite {lists : List (List (Nat × Nat))} (h : ∀ ranges ∈ lists, Ascend ranges) :
  Ascend (unite lists)
  := by
  induction lists with
  | nil => exact ⟨rfl, fun n hn => absurd hn (not_among_nil n)⟩
  | cons ranges lists ih =>
    rw [List.forall_mem_cons] at h
    exact h.1.mergeRanges (ih h.2)

end Ascend

/-- Ascending ranges are not empty and end at code points. -/
theorem Ascend.bounds (h : Ascend ranges) (hr : r ∈ ranges) :
  r.1 ≤ r.2 ∧ r.2 ≤ lastCode
  := by
  have hle {first : Nat} {ranges : List (Nat × Nat)} (h : ascendFrom first ranges)
      (hr : r ∈ ranges) : r.1 ≤ r.2 := by
    induction ranges generalizing first with
    | nil => cases hr
    | cons s ranges ih =>
      obtain ⟨-, hs, h⟩ := ascendFrom_cons.mp h
      rcases List.mem_cons.mp hr with rfl | hr
      · exact hs
      · exact ih h hr
  have hr' := hle h.ascend hr
  exact ⟨hr', h.le_lastCode _ ⟨r, hr, hr', le_rfl⟩⟩

/-- What lies in one of several lists of ranges lies in their union. -/
theorem among_unite {lists : List (List (Nat × Nat))} (h : ∀ ranges ∈ lists, Ascend ranges) :
  Among (unite lists) n ↔ ∃ ranges ∈ lists, Among ranges n
  := by
  induction lists with
  | nil =>
    apply iff_of_false (not_among_nil n)
    rintro ⟨ranges, hranges, -⟩
    cases hranges
  | cons ranges lists ih =>
    rw [List.forall_mem_cons] at h
    simp only [List.mem_cons, exists_eq_or_imp, ← ih h.2]
    exact among_mergeRanges h.1.ascend (Ascend.unite h.2).ascend

/-! ### Complements -/

/-- The gaps between ascending ranges are what does not lie in these. -/
theorem among_gaps (h : ascendFrom first ranges) (hlast : ∀ n, Among ranges n → n ≤ lastCode) :
  Among (gaps first ranges) n ↔ (first ≤ n ∧ n ≤ lastCode) ∧ ¬Among ranges n
  := by
  induction ranges generalizing first with
  | nil =>
    rw [gaps]
    split
    · rw [among_cons]
      simp [not_among_nil]
    · simp only [not_among_nil, not_false_eq_true, and_true, false_iff]
      omega
  | cons r ranges ih =>
    obtain ⟨hfirst, hle, h⟩ := ascendFrom_cons.mp h
    have hr := hlast r.2 (among_cons.mpr (.inl ⟨hle, le_rfl⟩))
    have hgaps := ih h fun n hn => hlast n (among_cons.mpr (.inr hn))
    have hbehind : Among ranges n → r.2 + 1 ≤ n := le_of_ascendFrom h
    rw [gaps]
    split
    · rw [among_cons, hgaps, among_cons]
      dsimp only
      by_cases hn : Among ranges n
      · simp only [hn, or_true, not_true, and_false, or_false, iff_false]
        have := hbehind hn
        omega
      · simp only [hn, or_false, not_false_eq_true, and_true]
        omega
    · rw [hgaps, among_cons]
      by_cases hn : Among ranges n
      · simp [hn]
      · simp only [hn, or_false, not_false_eq_true, and_true]
        omega

/-- The gaps between ascending ranges ascend. -/
theorem ascendFrom_gaps (h : ascendFrom first ranges) :
  ascendFrom first (gaps first ranges)
  := by
  induction ranges generalizing first with
  | nil =>
    rw [gaps]
    split
    next hle => exact ascendFrom_cons.mpr ⟨le_rfl, hle, rfl⟩
    next => rfl
  | cons r ranges ih =>
    obtain ⟨hfirst, hle, h⟩ := ascendFrom_cons.mp h
    rw [gaps]
    split
    · exact ascendFrom_cons.mpr ⟨le_rfl, by omega, ascendFrom_mono (ih h) (by omega)⟩
    · exact ascendFrom_mono (ih h) (by omega)

/-- What does not lie in ascending ranges lies outside of them. -/
theorem among_outside (h : Ascend ranges) :
  Among (outside ranges) n ↔ n ≤ lastCode ∧ ¬Among ranges n
  := by
  rw [outside, among_gaps h.ascend h.le_lastCode]
  simp

/-- What is outside of ascending ranges ascends. -/
theorem Ascend.outside (h : Ascend ranges) :
  Ascend (outside ranges)
  := ⟨ascendFrom_gaps h.ascend, fun _ hn => ((among_outside h).mp hn).1⟩

/-- What lies in the one list of ranges and not in the other one lies in their difference. -/
theorem among_without (has : Ascend as) (hbs : Ascend bs) :
  Among (without as bs) n ↔ Among as n ∧ ¬Among bs n
  := by
  have hlists : ∀ ranges ∈ [outside as, bs], Ascend ranges := by
    simp [has.outside, hbs]
  rw [without, among_outside (.unite hlists), among_unite hlists]
  simp only [List.mem_cons, List.not_mem_nil, or_false, exists_eq_or_imp, exists_eq_left,
    among_outside has, not_or, not_and, not_not]
  constructor
  · rintro ⟨hn, ha, hb⟩
    exact ⟨ha hn, hb⟩
  · rintro ⟨ha, hb⟩
    exact ⟨has.le_lastCode n ha, fun _ => ha, hb⟩

/-- What lies in both lists of ranges lies in what they have in common. -/
theorem among_both (has : Ascend as) (hbs : Ascend bs) :
  Among (both as bs) n ↔ Among as n ∧ Among bs n
  := by
  have hlists : ∀ ranges ∈ [outside as, outside bs], Ascend ranges := by
    simp [has.outside, hbs.outside]
  rw [both, among_outside (.unite hlists), among_unite hlists]
  simp only [List.mem_cons, List.not_mem_nil, or_false, exists_eq_or_imp, exists_eq_left,
    among_outside has, among_outside hbs, not_or, not_and, not_not]
  constructor
  · rintro ⟨hn, ha, hb⟩
    exact ⟨ha hn, hb hn⟩
  · rintro ⟨ha, hb⟩
    exact ⟨has.le_lastCode n ha, fun _ => ha, fun _ => hb⟩

/-! ### Tables -/

/-- Ranges that ascend up to the last code point are seen to do so by their ends. -/
theorem ascend_of_all (h : ascendFrom 0 ranges) (hall : ranges.all (·.2 ≤ lastCode)) :
  Ascend ranges
  := by
  refine ⟨h, ?_⟩
  rintro n ⟨r, hr, -, hn⟩
  exact hn.trans (of_decide_eq_true (List.all_eq_true.mp hall r hr))

theorem ascend_wordRanges :
  Ascend wordRanges
  := ascend_of_all ascendFrom_wordRanges (by decide +kernel)

theorem ascend_digitRanges :
  Ascend digitRanges
  := ascend_of_all (by decide +kernel) (by decide +kernel)

theorem ascend_spaceRanges :
  Ascend spaceRanges
  := ascend_of_all (by decide +kernel) (by decide +kernel)

/-- The look-up finds just what lies in ascending ranges. -/
theorem inRanges_iff (h : Ascend ranges) :
  inRanges ranges n ↔ Among ranges n
  := ⟨among_of_inRanges, inRanges_of_among h.ascend⟩

end Unicode

namespace CharSet

open Unicode

variable {ranges : List (Nat × Nat)} {s : CharSet} {x : Char} {n : Nat}

/-- The set does not ask for characters that differ in case from others. -/
def mindsCase : CharSet → Bool
  | anyCase _ _ => false
  | union a b => a.mindsCase && b.mindsCase
  | compl a => a.mindsCase
  | range _ _ | word | digit | space => true

theorem toNat_le_lastCode (x : Char) :
  x.toNat ≤ lastCode
  := by
  have hvalid : x.toNat < 0xD800 ∨ 0xDFFF < x.toNat ∧ x.toNat < 0x110000 := x.valid
  rw [lastCode]
  omega

/-- The ranges of a set ascend. -/
theorem ascend_ranges (h : s.mindsCase) :
  Ascend s.ranges
  := by
  induction s with
  | range first last =>
    rw [ranges]
    split
    next hle =>
      apply ascend_of_all
      · exact ascendFrom_cons.mpr ⟨Nat.zero_le _, hle, rfl⟩
      · simp [toNat_le_lastCode]
    next => exact ⟨rfl, fun n hn => absurd hn (not_among_nil n)⟩
  | anyCase => cases h
  | word => exact ascend_wordRanges
  | digit => exact ascend_digitRanges
  | space => exact ascend_spaceRanges
  | union a b iha ihb =>
    rw [mindsCase, Bool.and_eq_true] at h
    exact (iha h.1).mergeRanges (ihb h.2)
  | compl a ih => exact (ih h).outside

/-- The ranges of a set are those of its characters. -/
theorem among_ranges (h : s.mindsCase) :
  Among s.ranges x.toNat ↔ s.contains x
  := by
  induction s with
  | range first last =>
    simp only [contains, Bool.and_eq_true, decide_eq_true_eq]
    rw [ranges]
    split
    next =>
      rw [among_cons]
      exact ⟨fun h => h.resolve_right (not_among_nil _), fun h => .inl h⟩
    next hle =>
      apply iff_of_false (not_among_nil _)
      rintro ⟨hfirst, hlast⟩
      exact hle (Char.le_trans hfirst hlast)
  | anyCase => cases h
  | word => exact (inRanges_iff ascend_wordRanges).symm
  | digit => exact (inRanges_iff ascend_digitRanges).symm
  | space => exact (inRanges_iff ascend_spaceRanges).symm
  | union a b iha ihb =>
    rw [mindsCase, Bool.and_eq_true] at h
    rw [ranges, among_mergeRanges (ascend_ranges h.1).ascend (ascend_ranges h.2).ascend, iha h.1,
      ihb h.2, contains, Bool.or_eq_true]
  | compl a ih =>
    have ha : a.mindsCase := h
    rw [ranges, among_outside (ascend_ranges ha), ih ha, contains]
    simp [toNat_le_lastCode]

/-! ### Sets made of ranges -/

/-- The set of several ranges has the characters that lie in one of them. -/
theorem contains_ofPairs (pairs : List (Char × Char)) :
  (ofPairs pairs).contains x ↔ ∃ p ∈ pairs, p.1 ≤ x ∧ x ≤ p.2
  := by
  induction pairs with
  | nil =>
    have hall : CharSet.all.contains x := by
      rw [all, contains, Bool.and_eq_true, decide_eq_true_eq, decide_eq_true_eq]
      exact ⟨Nat.zero_le _, toNat_le_lastCode x⟩
    simp [ofPairs, nothing, contains, hall]
  | cons p pairs ih =>
    cases pairs with
    | nil => simp [ofPairs, contains]
    | cons q pairs =>
      rw [ofPairs, contains, Bool.or_eq_true, ih]
      · simp [contains]
      · exact List.cons_ne_nil q pairs

theorem toNat_ofNat_of_isValidChar (h : n.isValidChar) :
  (Char.ofNat n).toNat = n
  := by
  rw [Char.ofNat, dif_pos h]
  rfl

/-- A range that starts between the characters starts at the next one. -/
theorem first_le_iff (hn : n ≤ lastCode) :
  Char.ofNat (if n.isValidChar then n else 0xE000) ≤ x ↔ n ≤ x.toNat
  := by
  have hvalid : x.toNat < 0xD800 ∨ 0xDFFF < x.toNat ∧ x.toNat < 0x110000 := x.valid
  change (Char.ofNat _).toNat ≤ x.toNat ↔ n ≤ x.toNat
  rw [lastCode] at hn
  split
  next h => rw [toNat_ofNat_of_isValidChar h]
  next h =>
    rw [Nat.isValidChar] at h
    change 0xE000 ≤ x.toNat ↔ n ≤ x.toNat
    omega

/-- A range that ends between the characters ends at the one before. -/
theorem le_last_iff (hn : n ≤ lastCode) :
  x ≤ Char.ofNat (if n.isValidChar then n else 0xD7FF) ↔ x.toNat ≤ n
  := by
  have hvalid : x.toNat < 0xD800 ∨ 0xDFFF < x.toNat ∧ x.toNat < 0x110000 := x.valid
  change x.toNat ≤ (Char.ofNat _).toNat ↔ x.toNat ≤ n
  rw [lastCode] at hn
  split
  next h => rw [toNat_ofNat_of_isValidChar h]
  next h =>
    rw [Nat.isValidChar] at h
    change x.toNat ≤ 0xD7FF ↔ x.toNat ≤ n
    omega

/-- The set of ranges has just the characters whose code points lie in them. -/
theorem contains_ofRanges (h : Ascend ranges) :
  (ofRanges ranges).contains x ↔ Among ranges x.toNat
  := by
  rw [ofRanges, contains_ofPairs]
  simp only [List.mem_map, exists_exists_and_eq_and]
  apply exists_congr
  intro r
  apply and_congr_right
  intro hr
  obtain ⟨hle, hlast⟩ := h.bounds hr
  exact and_congr (first_le_iff (hle.trans hlast)) (le_last_iff hlast)

/-- Resolving a set keeps its characters. -/
theorem contains_ofRanges_ranges (h : s.mindsCase) :
  (ofRanges s.ranges).contains x = s.contains x
  := by
  rw [Bool.eq_iff_iff, contains_ofRanges (ascend_ranges h), among_ranges h]

end CharSet

/-! ### Forms with their sets resolved -/

namespace Pattern

/-- The sets of the form do not ask for characters that differ in case from others. -/
def Form.mindsCase : Form → Bool
  | set s => s.mindsCase
  | group _ f => f.mindsCase
  | seq f g | alt f g => f.mindsCase && g.mindsCase
  | times f _ _ _ => f.mindsCase
  | empty | assertion _ => true

/-- A form with its sets given by ranges reads what it has read before. -/
theorem Form.reads_resolved {f : Form} (h : f.mindsCase) :
  f.resolved.Reads = f.Reads
  := by
  induction f with
  | empty | assertion => rfl
  | set s =>
    apply Way.ext
    intro c ms d
    simp only [resolved, Reads, Way.take, CharSet.contains_ofRanges_ranges h]
  | group index f ih => rw [resolved, Reads, ih h, Reads]
  | seq f g ihf ihg =>
    rw [mindsCase, Bool.and_eq_true] at h
    rw [resolved, Reads, ihf h.1, ihg h.2, Reads]
  | alt f g ihf ihg =>
    rw [mindsCase, Bool.and_eq_true] at h
    rw [resolved, Reads, ihf h.1, ihg h.2, Reads]
  | times f least most greedy ih => rw [resolved, Reads, ih h, Reads]

end Pattern

end Highlight
