import Highlight.Pattern.Memory
import Mathlib.Algebra.BigOperators.Ring.List
import Mathlib.Algebra.Order.BigOperators.Group.List
import Mathlib.Algebra.Order.Ring.Nat

/-!
# A bound for the memory of patterns

How many states the sequences of a set share is found by going through all that can be left of
them.  If they shared none, the sequences would only have to be counted, and how many there are is
bounded by the number of ranges.  A form that fits by the ranges of its sets fits.
-/

namespace Highlight.Pattern

open ByteSequence

variable {seqs group : List ByteSequence}

/-! ### Sequences -/

/-- What is left when each element is only kept once occurs in the list in the same order. -/
theorem eraseDups_sublist {α : Type} [BEq α] (xs : List α) :
  xs.eraseDups.Sublist xs
  := by
  -- the induction is on the length, as what is left without an element is no tail
  induction hn : xs.length using Nat.strong_induction_on generalizing xs with
  | _ n ih =>
    cases xs with
    | nil => exact List.Sublist.refl _
    | cons x xs =>
      have hsub : (xs.filter fun y => !y == x).Sublist xs := List.filter_sublist
      subst hn
      rw [List.eraseDups_cons]
      apply List.Sublist.cons_cons
      exact (ih _ (Nat.lt_succ_of_le hsub.length_le) _ rfl).trans hsub

/-- The first sequence starts a group, or it is put into the first group of the others. -/
theorem behindFirst_cons (s : ByteSequence) (seqs : List ByteSequence) :
  behindFirst (s :: seqs) = [[s.tail]] ∨
    ∃ group groups, behindFirst seqs = group :: groups ∧
      (behindFirst (s :: seqs) = (s.tail :: group) :: groups ∨
        behindFirst (s :: seqs) = [s.tail] :: group :: groups)
  := by
  cases seqs with
  | nil => exact .inl rfl
  | cons t seqs =>
    rw [behindFirst.eq_def (s :: t :: seqs)]
    dsimp only
    cases hgroups : behindFirst (t :: seqs) with
    | nil => exact .inl rfl
    | cons group groups =>
      right
      refine ⟨group, groups, rfl, ?_⟩
      by_cases hsame : s.head? = t.head?
      · exact .inl (if_pos hsame)
      · exact .inr (if_neg hsame)

/-- Each sequence is in one group at most. -/
theorem sum_length_behindFirst_le (seqs : List ByteSequence) :
  ((behindFirst seqs).map List.length).sum ≤ seqs.length
  := by
  induction seqs with
  | nil => exact le_refl _
  | cons s seqs ih =>
    rcases behindFirst_cons s seqs with h | ⟨group, groups, hgroups, h | h⟩
    · simp [h]
    · rw [hgroups] at ih
      rw [h]
      simp only [List.map_cons, List.sum_cons, List.length_cons] at ih ⊢
      omega
    · rw [hgroups] at ih
      rw [h]
      simp only [List.map_cons, List.sum_cons, List.length_cons, List.length_nil] at ih ⊢
      omega

/-- No group of sequences is empty. -/
theorem ne_nil_of_mem_behindFirst (h : group ∈ behindFirst seqs) :
  group ≠ []
  := by
  induction seqs generalizing group with
  | nil => cases h
  | cons s seqs ih =>
    rcases behindFirst_cons s seqs with hall | ⟨first, groups, hgroups, hall | hall⟩
    · rw [hall, List.mem_singleton] at h
      rw [h]
      exact List.cons_ne_nil _ _
    · rw [hall, List.mem_cons] at h
      rcases h with rfl | h
      · exact List.cons_ne_nil _ _
      · apply ih
        rw [hgroups]
        exact List.mem_cons_of_mem _ h
    · rw [hall, List.mem_cons] at h
      rcases h with rfl | h
      · exact List.cons_ne_nil _ _
      · apply ih
        rw [hgroups]
        exact h

/-- There are at most as many groups as sequences. -/
theorem length_behindFirst_le (seqs : List ByteSequence) :
  (behindFirst seqs).length ≤ seqs.length
  := by
  calc (behindFirst seqs).length
      = ((behindFirst seqs).map List.length).length := by rw [List.length_map]
    _ ≤ ((behindFirst seqs).map List.length).sum := by
      apply List.length_le_sum_of_one_le
      intro n hn
      obtain ⟨group, hgroup, rfl⟩ := List.mem_map.mp hn
      exact List.length_pos_of_ne_nil (ne_nil_of_mem_behindFirst hgroup)
    _ ≤ seqs.length := sum_length_behindFirst_le seqs

/-- Something can always be left of what is read. -/
theorem ne_nil_of_mem_remainders {depth : Nat} (h : group ∈ remainders depth seqs) :
  group ≠ []
  := by
  induction depth generalizing seqs with
  | zero => cases h
  | succ depth ih =>
    rw [remainders] at h
    split at h
    · cases h
    · rename_i hsome
      rcases List.mem_cons.mp h with rfl | hmem
      · rintro rfl
        exact hsome rfl
      · obtain ⟨rest, -, hrest⟩ := List.mem_flatMap.mp hmem
        exact ih hrest

/-- Each sequence is left once at most for each of the bytes that are read. -/
theorem sum_length_remainders_le (depth : Nat) (seqs : List ByteSequence) :
  ((remainders depth seqs).map List.length).sum ≤ depth * seqs.length
  := by
  induction depth generalizing seqs with
  | zero => simp [remainders]
  | succ depth ih =>
    rw [remainders]
    split
    · simp
    · have hrests : (((behindFirst seqs).flatMap (remainders depth)).map List.length).sum
          ≤ depth * seqs.length := by
        calc (((behindFirst seqs).flatMap (remainders depth)).map List.length).sum
            = ((behindFirst seqs).map
                fun group => ((remainders depth group).map List.length).sum).sum := by
              rw [List.map_flatMap, List.flatMap_def, List.sum_flatten, List.map_map]
              rfl
          _ ≤ ((behindFirst seqs).map fun group => depth * group.length).sum :=
              List.sum_le_sum fun group _ => ih group
          _ = depth * ((behindFirst seqs).map List.length).sum := List.sum_map_mul_left _ _ _
          _ ≤ depth * seqs.length := Nat.mul_le_mul_left _ (sum_length_behindFirst_le seqs)
      rw [List.map_cons, List.sum_cons, Nat.succ_mul]
      omega

/-- Read forward, a sequence takes the bytes of four states that share nothing at most. -/
theorem forwardBytes_le (seqs : List ByteSequence) :
  forwardBytes seqs ≤ 160 * seqs.length
  := by
  let state (left : List ByteSequence) : Nat :=
    stateBytes + transitionBytes * (behindFirst left).length
  have hstate : ∀ left ∈ remainders 4 seqs, state left ≤ 40 * left.length := by
    intro left hleft
    have hpos := List.length_pos_of_ne_nil (ne_nil_of_mem_remainders hleft)
    have hgroups := length_behindFirst_le left
    simp only [state, stateBytes, transitionBytes]
    omega
  calc forwardBytes seqs
      = ((remainders 4 seqs).eraseDups.map state).sum := by
        rw [List.sum_eq_foldr, List.foldr_map]
        rfl
    _ ≤ ((remainders 4 seqs).map state).sum :=
        ((eraseDups_sublist _).map state).sum_le_sum fun n _ => Nat.zero_le n
    _ ≤ ((remainders 4 seqs).map fun left => 40 * left.length).sum := List.sum_le_sum hstate
    _ = 40 * ((remainders 4 seqs).map List.length).sum := List.sum_map_mul_left _ _ _
    _ ≤ 40 * (4 * seqs.length) := Nat.mul_le_mul_left _ (sum_length_remainders_le 4 seqs)
    _ = 160 * seqs.length := by omega

/-- There are at most four starts for each sequence. -/
theorem starts_le (h : ∀ s ∈ seqs, s.length ≤ 4) :
  starts seqs ≤ 4 * seqs.length
  := by
  fun_induction starts seqs with
  | case1 => exact le_refl _
  | case2 s => exact h s List.mem_cons_self
  | case3 s t seqs ih =>
    have hs := h s List.mem_cons_self
    have hrest := ih fun s' hs' => h s' (List.mem_cons_of_mem _ hs')
    simp only [List.length_cons] at hrest ⊢
    omega

/-- Read backward, a sequence takes the bytes of four states that share nothing at most. -/
theorem backwardBytes_le (h : ∀ s ∈ seqs, s.length ≤ 4) :
  backwardBytes seqs ≤ 32 + 160 * seqs.length
  := by
  have hstarts := starts_le h
  rw [backwardBytes, stateBytes, branchBytes]
  omega

/-! ### Encodings -/

/-- A sequence has a range for each of its bytes. -/
theorem length_of_mem_between {further low high : Nat} {s : ByteSequence}
    (h : s ∈ between further low high) :
  s.length = further + 1
  := by
  induction further generalizing low high s with
  | zero =>
    cases List.mem_singleton.mp h
    rfl
  | succ n ih =>
    have hput {low high : Nat} {r : Nat × Nat}
        (hmem : s ∈ (between n low high).map (r :: ·)) : s.length = n + 1 + 1 := by
      obtain ⟨rest, hrest, rfl⟩ := List.mem_map.mp hmem
      rw [List.length_cons, ih hrest]
    rw [between] at h
    dsimp only at h
    split at h
    · exact hput h
    · simp only [List.mem_append, List.mem_ite_nil_left, List.mem_ite_nil_right] at h
      rcases h with (⟨-, h⟩ | ⟨-, h⟩) | ⟨-, h⟩
      · exact hput h
      · exact hput h
      · exact hput h

/-- Each further byte divides a range into three at most: what is whole in its first byte, and what
is not at either end. -/
theorem length_between_le (further low high : Nat) :
  (between further low high).length ≤ 3 ^ further
  := by
  induction further generalizing low high with
  | zero => exact le_refl _
  | succ n ih =>
    have hput (low high : Nat) (r : Nat × Nat) :
        ((between n low high).map (r :: ·)).length ≤ 3 ^ n := by
      rw [List.length_map]
      exact ih low high
    have hpart {p : Prop} [Decidable p] {l : List ByteSequence} (h : l.length ≤ 3 ^ n) :
        (if p then l else []).length ≤ 3 ^ n := by
      split
      · exact h
      · exact Nat.zero_le _
    have hpart' {p : Prop} [Decidable p] {l : List ByteSequence} (h : l.length ≤ 3 ^ n) :
        (if p then [] else l).length ≤ 3 ^ n := by
      split
      · exact Nat.zero_le _
      · exact h
    have hthree : 3 ^ (n + 1) = 3 ^ n + 3 ^ n + 3 ^ n := by omega
    rw [between, hthree]
    dsimp only
    split
    · exact (hput _ _ _).trans (Nat.le_add_left _ _)
    · rw [List.length_append, List.length_append]
      apply Nat.add_le_add (Nat.add_le_add _ _) _
      · exact hpart' (hput _ _ _)
      · exact hpart (hput _ _ _)
      · exact hpart' (hput _ _ _)

theorem length_lead (n : Nat) (s : ByteSequence) :
  (lead n s).length = s.length
  := by cases s <;> rfl

/-- No character takes more than four bytes. -/
theorem length_of_mem_ofRange {r : Nat × Nat} {s : ByteSequence} (h : s ∈ ofRange r) :
  s.length ≤ 4
  := by
  obtain ⟨⟨first, last, further, mark⟩, hlengths, h⟩ := List.mem_flatMap.mp h
  have hfurther : ∀ l ∈ lengths, l.2.2.1 ≤ 3 := by decide
  have hfurther := hfurther _ hlengths
  dsimp only at h hfurther
  split at h
  · obtain ⟨bytes, hbytes, rfl⟩ := List.mem_map.mp h
    have hlength := length_of_mem_between hbytes
    rw [length_lead, hlength]
    omega
  · cases h

/-- A range of code points is divided into 49 sequences at most. -/
theorem length_ofRange_le (r : Nat × Nat) :
  (ofRange r).length ≤ 49
  := by
  rw [ofRange, List.length_flatMap]
  calc (lengths.map _).sum ≤ (lengths.map fun l => 3 ^ l.2.2.1).sum := by
        apply List.sum_le_sum
        rintro ⟨first, last, further, mark⟩ -
        dsimp only
        split
        · rw [List.length_map]
          exact length_between_le further _ _
        · exact Nat.zero_le _
    _ = 49 := rfl

theorem length_ofSet_le (s : CharSet) :
  (ByteSequence.ofSet s).length ≤ 49 * s.ranges.length
  := by
  rw [ByteSequence.ofSet, List.length_flatMap]
  calc (s.ranges.map fun r => (ofRange r).length).sum
      ≤ (s.ranges.map fun r => (ofRange r).length).length * 49 := by
        apply List.sum_le_card_nsmul
        intro n hn
        obtain ⟨r, -, rfl⟩ := List.mem_map.mp hn
        exact length_ofRange_le r
    _ = 49 * s.ranges.length := by rw [List.length_map, Nat.mul_comm]

/-! ### Forms -/

/-- At least the bytes of the states for a set, by the number of its ranges. -/
def mostBytes (s : CharSet) : Nat :=
  128 + 7840 * s.ranges.length

/-- The states for a set take at most the bytes that its ranges are counted for. -/
theorem setBytes_le {wide : List ByteSequence → Nat}
    (h : ∀ seqs : List ByteSequence, (∀ s ∈ seqs, s.length ≤ 4) →
      wide seqs ≤ 32 + 160 * seqs.length) (s : CharSet) :
  setBytes wide s ≤ mostBytes s
  := by
  have hseveral : setBytes.severalBytes wide s.ranges ≤ mostBytes s := by
    have hwide := h (ByteSequence.ofSet s) <| by
      intro seq hseq
      obtain ⟨r, -, hseq⟩ := List.mem_flatMap.mp hseq
      exact length_of_mem_ofRange hseq
    have hlength := length_ofSet_le s
    rw [ByteSequence.ofSet] at hwide hlength
    rw [setBytes.severalBytes, mostBytes, stateBytes, transitionBytes]
    split <;> omega
  rw [setBytes]
  split
  · rename_i a b hranges
    split
    · have hsize := Char.utf8Size_le_four (Char.ofNat a)
      rw [stateBytes, mostBytes]
      omega
    · rw [← hranges]
      exact hseveral
  · exact hseveral

/-- What the sets and the marks take more, the form takes more. -/
theorem Form.bytes_mono {ofSet ofSet' : CharSet → Nat} {mark mark' : Nat}
    (hset : ∀ s, ofSet s ≤ ofSet' s) (hmark : mark ≤ mark') (f : Form) (inside : Bool) :
  f.bytes ofSet mark inside ≤ f.bytes ofSet' mark' inside
  := by
  have halternative {n m : Nat} (h : n ≤ m) (inside : Bool) :
      bytes.alternative inside n ≤ bytes.alternative inside m := by
    rw [bytes.alternative, bytes.alternative]
    split <;> omega
  induction f generalizing inside with
  | empty => exact le_refl _
  | set s => exact halternative (hset s) inside
  | assertion a => exact le_refl _
  | group index f ih =>
    apply halternative
    exact Nat.add_le_add (ih false) (Nat.mul_le_mul_left 2 hmark)
  | seq f g ihf ihg =>
    apply halternative
    exact Nat.add_le_add (ihf false) (ihg false)
  | alt f g ihf ihg =>
    rw [bytes, bytes]
    have hf := ihf true
    have hg := ihg true
    omega
  | times f least most greedy ih =>
    have hbody := ih false
    cases most with
    | none =>
      apply halternative
      split
      · omega
      · exact Nat.add_le_add_right (Nat.mul_le_mul_left _ hbody) _
    | some most =>
      apply halternative
      exact Nat.add_le_add_right (Nat.add_le_add_right (Nat.mul_le_mul_left _ hbody) _) _

/-- A form fits if it does so when its sets are counted by their ranges. -/
theorem Form.fits_of_bytes_le {f : Form}
    (h : f.bytes mostBytes stateBytes false ≤ memoryLimit) :
  f.fits
  := by
  have hforward : f.bytes (setBytes forwardBytes) stateBytes false
      ≤ f.bytes mostBytes stateBytes false := by
    apply Form.bytes_mono _ (le_refl _)
    apply setBytes_le
    intro seqs _
    exact (forwardBytes_le seqs).trans (Nat.le_add_left _ _)
  have hbackward : f.bytes (setBytes backwardBytes) 0 false
      ≤ f.bytes mostBytes stateBytes false := by
    apply Form.bytes_mono _ (Nat.zero_le _)
    apply setBytes_le
    intro seqs hseqs
    exact backwardBytes_le hseqs
  rw [Form.fits, Bool.and_eq_true, decide_eq_true_iff, decide_eq_true_iff]
  exact ⟨hforward.trans h, hbackward.trans h⟩

end Highlight.Pattern
