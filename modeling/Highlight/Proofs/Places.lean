import Mathlib.Order.Basic
import Mathlib.Order.Nat
import Mathlib.Tactic.Use
import Highlight.Text.Cursor
import Highlight.Text.Offset

/-!
# The places of a line

The places of a line are ordered: `c ≤ d` says that `d` is reached from `c` by moving forward over
some characters.  From a given place, each later one is determined by its offset, and
`Cursor.moveTo` finds it.  The boundaries of a line are the offsets of its places.
-/

namespace Highlight

namespace Text

@[simp]
theorem size_nil :
  size [] = 0
  := rfl

@[simp]
theorem size_cons (x : Char) (line : List Char) :
  size (x :: line) = x.utf8Size + size line
  := rfl

/-- The size of two texts in a row is the sum of theirs. -/
@[simp]
theorem size_append (front back : List Char) :
  size (front ++ back) = size front + size back
  := by
  induction front with
  | nil => rw [List.nil_append, size_nil, Nat.zero_add]
  | cons x front ih => rw [List.cons_append, size_cons, size_cons, ih, Nat.add_assoc]

/-- Only the empty text has no size. -/
theorem eq_nil_of_size_eq_zero {line : List Char} (h : size line = 0) :
  line = []
  := by
  cases line with
  | nil => rfl
  | cons x line =>
    rw [size_cons] at h
    have := x.utf8Size_pos
    omega

/-- A text is cut in front of its first character without a property. -/
theorem takeWhile_dropWhile_append {p : Char → Bool} {front : List Char}
    (hfront : ∀ x ∈ front, p x) {x : Char} (hx : ¬p x) (rest : List Char) :
  (front ++ x :: rest).takeWhile p = front ∧ (front ++ x :: rest).dropWhile p = x :: rest
  := by
  rw [List.takeWhile_append_of_pos hfront, List.dropWhile_append_of_pos hfront,
    List.takeWhile_cons_of_neg hx, List.dropWhile_cons_of_neg hx, List.append_nil]
  exact ⟨rfl, rfl⟩

/-- A character of the line starts at offset `n`, or the line ends there. -/
def IsBoundary (line : List Char) (n : Nat) : Prop :=
  ∃ front back, line = front ++ back ∧ n = size front

/-- What is behind a text is found by its size. -/
theorem dropTo?_size (front back : List Char) :
  dropTo? (size front) (front ++ back) = some back
  := by
  induction front with
  | nil => simp [dropTo?]
  | cons x front ih =>
    have := x.utf8Size_pos
    obtain ⟨n, hn⟩ : ∃ n, size (x :: front) = n + 1 :=
      Nat.exists_eq_succ_of_ne_zero (by rw [size_cons]; omega)
    rw [hn, List.cons_append, dropTo?, ← hn, size_cons, if_pos (by omega), Nat.add_sub_cancel_left]
    apply ih

/-- What is in front of a text is found by its size. -/
theorem takeTo?_size (front back : List Char) :
  takeTo? (size front) (front ++ back) = some front
  := by
  induction front with
  | nil => simp [takeTo?]
  | cons x front ih =>
    have := x.utf8Size_pos
    obtain ⟨n, hn⟩ : ∃ n, size (x :: front) = n + 1 :=
      Nat.exists_eq_succ_of_ne_zero (by rw [size_cons]; omega)
    rw [hn, List.cons_append, takeTo?, ← hn, size_cons, if_pos (by omega),
      Nat.add_sub_cancel_left, ih]
    rfl

/-- A piece of a line is cut out by the offsets of its ends. -/
theorem slice?_size (front piece back : List Char) :
  slice? (size front) (size front + size piece) (front ++ (piece ++ back)) = some piece
  := by
  rw [slice?, if_pos (Nat.le_add_right _ _), dropTo?_size, Nat.add_sub_cancel_left]
  apply takeTo?_size

end Text

namespace Cursor

/-! ### The order of places -/

/-- The place behind the characters of `w`, which `rest` follows. -/
def along (c : Cursor) (w rest : List Char) : Cursor :=
  ⟨w.getLast?.or c.before, c.offset + Text.size w, rest⟩

theorem along_nil (c : Cursor) :
  c.along [] c.rest = c
  := rfl

theorem along_cons (c : Cursor) (x : Char) (w rest : List Char) :
  c.along (x :: w) rest = (c.past x (w ++ rest)).along w rest
  := by
  cases w with
  | nil => simp [along, past]
  | cons y w => simp [along, past, Nat.add_assoc, List.getLast?_cons]

/-- Going over one text and then over another is going over both. -/
theorem along_along (c : Cursor) (w v rest rest' : List Char) :
  (c.along w rest').along v rest = c.along (w ++ v) rest
  := by
  simp only [along, List.getLast?_append, Option.or_assoc, Text.size_append, Nat.add_assoc]

/-- A place comes before another one that is reached by moving forward. -/
instance : Preorder Cursor where
  le c d := ∃ w, c.rest = w ++ d.rest ∧ d = c.along w d.rest
  le_refl c := ⟨[], rfl, rfl⟩
  le_trans c d e := by
    rintro ⟨w, hw, hd⟩ ⟨v, hv, he⟩
    use w ++ v
    constructor
    · rw [hw, hv, List.append_assoc]
    · rw [hd, along_along] at he
      apply he

/-- A place is not behind another one exactly if going over what stands between them leads to it. -/
theorem le_def {c d : Cursor} :
  c ≤ d ↔ ∃ w, c.rest = w ++ d.rest ∧ d = c.along w d.rest
  := Iff.rfl

theorem le_along {c : Cursor} {w rest : List Char} (h : c.rest = w ++ rest) :
  c ≤ c.along w rest
  := ⟨w, h, rfl⟩

/-- Going past a character leads forward. -/
theorem le_past {c : Cursor} {x : Char} {rest : List Char} (h : c.rest = x :: rest) :
  c ≤ c.past x rest
  := by
  have := le_along (c := c) (w := [x]) h
  rwa [along_cons] at this

/-- A place at or behind `c` is `c` itself or one at or behind the next place. -/
theorem eq_or_past_le {c d : Cursor} (h : c ≤ d) :
  d = c ∨ ∃ x rest, c.rest = x :: rest ∧ c.past x rest ≤ d
  := by
  obtain ⟨w, hw, hd⟩ := h
  cases w with
  | nil =>
    left
    rw [hd, ← List.nil_append d.rest, ← hw]
    rfl
  | cons x w =>
    right
    use x, w ++ d.rest, hw, w, rfl
    rw [← along_cons]
    apply hd

/-- Places in order have their offsets in order. -/
theorem offset_le {c d : Cursor} (h : c ≤ d) :
  c.offset ≤ d.offset
  := by
  obtain ⟨w, -, hd⟩ := h
  rw [hd]
  apply Nat.le_add_right

theorem offset_lt_past (c : Cursor) (x : Char) (rest : List Char) :
  c.offset < (c.past x rest).offset
  := Nat.lt_add_of_pos_right x.utf8Size_pos

/-- Not more is left further on. -/
theorem length_rest_le {c d : Cursor} (h : c ≤ d) :
  d.rest.length ≤ c.rest.length
  := by
  obtain ⟨w, hw, -⟩ := h
  rw [hw, List.length_append]
  apply Nat.le_add_left

/-- Of two places behind `c`, the one with the smaller offset comes first. -/
theorem le_of_offset_le {c d e : Cursor} (hd : c ≤ d) (he : c ≤ e)
    (h : d.offset ≤ e.offset) :
  d ≤ e
  := by
  obtain ⟨w, hw, hd⟩ := hd
  obtain ⟨v, hv, he⟩ := he
  have hd' : d.offset = c.offset + Text.size w := by rw [hd]; rfl
  have he' : e.offset = c.offset + Text.size v := by rw [he]; rfl
  rcases List.append_eq_append_iff.mp (hw.symm.trans hv) with ⟨u, hu, hrest⟩ | ⟨u, hu, hrest⟩
  · use u, hrest
    rw [hd, along_along, ← hu]
    apply he
  · have hnil : u = [] := by
      apply Text.eq_nil_of_size_eq_zero
      rw [hu, Text.size_append] at hd'
      omega
    subst hnil
    rw [List.append_nil] at hu
    rw [hd, he, hu, hrest]
    rfl

/-- Places of the same line with the same offset are the same. -/
theorem eq_of_offset_eq {c d e : Cursor} (hd : c ≤ d) (he : c ≤ e)
    (h : d.offset = e.offset) :
  d = e
  := by
  rcases eq_or_past_le (le_of_offset_le hd he h.le) with rfl | ⟨x, rest, -, hle⟩
  · rfl
  · have := offset_lt_past d x rest
    have := offset_le hle
    omega

/-! ### First places -/

/-- The place `d` is the first one from `c` on with the property. -/
structure IsFirst (P : Cursor → Prop) (c d : Cursor) : Prop where
  le : c ≤ d
  holds : P d
  first : ∀ e, c ≤ e → e.offset < d.offset → ¬P e

namespace IsFirst

variable {P : Cursor → Prop} {c d : Cursor}

theorem self (h : P c) :
  IsFirst P c c
  where
  le := le_refl c
  holds := h
  first _ he hlt := absurd (offset_le he) (Nat.not_le.mpr hlt)

/-- What is first behind a character is first from the character on, if it is not there. -/
theorem of_past {x : Char} {rest : List Char} (hrest : c.rest = x :: rest) (hc : ¬P c)
    (h : IsFirst P (c.past x rest) d) :
  IsFirst P c d
  where
  le := (le_past hrest).trans h.le
  holds := h.holds
  first e he hlt := by
    rcases eq_or_past_le he with rfl | ⟨y, rest', hrest', hle⟩
    · apply hc
    · rw [hrest] at hrest'
      cases hrest'
      apply h.first e hle hlt

end IsFirst

/-- What holds at a place and at all places behind its first character holds from the place on. -/
theorem forall_le_of_past {P : Cursor → Prop} {c : Cursor} {x : Char} {rest : List Char}
    (hrest : c.rest = x :: rest) (hc : P c) (h : ∀ d, c.past x rest ≤ d → P d) :
  ∀ d, c ≤ d → P d
  := by
  intro d hd
  rcases eq_or_past_le hd with rfl | ⟨y, rest', hrest', hle⟩
  · apply hc
  · rw [hrest] at hrest'
    cases hrest'
    apply h d hle

theorem forall_le_of_nil {P : Cursor → Prop} {c : Cursor} (hrest : c.rest = []) (hc : P c) :
  ∀ d, c ≤ d → P d
  := by
  intro d hd
  rcases eq_or_past_le hd with rfl | ⟨y, rest', hrest', -⟩
  · apply hc
  · rw [hrest] at hrest'
    cases hrest'

/-! ### Moving -/

/-- Moving to an offset goes past the characters in front of it. -/
theorem past_moveTo {c : Cursor} {x : Char} {rest : List Char} (h : c.rest = x :: rest) {n : Nat}
    (hn : c.offset < n) :
  c.moveTo n = (c.past x rest).moveTo n
  := by
  rw [moveTo, h, seek, if_neg (by omega)]
  rfl

/-- Moving goes forward only. -/
theorem moveTo_of_le {c : Cursor} {n : Nat} (h : n ≤ c.offset) :
  c.moveTo n = c
  := by
  obtain ⟨before, offset, rest⟩ := c
  cases rest with
  | nil => rfl
  | cons x rest => apply if_pos h

theorem moveTo_of_rest_nil {c : Cursor} (h : c.rest = []) (n : Nat) :
  c.moveTo n = c
  := by
  obtain ⟨before, offset, rest⟩ := c
  cases h
  rfl

/-- A place behind `c` is found by its offset. -/
theorem moveTo_offset {c d : Cursor} (h : c ≤ d) :
  c.moveTo d.offset = d
  := by
  rcases eq_or_past_le h with rfl | ⟨x, rest, hrest, hle⟩
  · apply moveTo_of_le le_rfl
  · rw [past_moveTo hrest (Nat.lt_of_lt_of_le (offset_lt_past c x rest) (offset_le hle))]
    apply moveTo_offset hle
termination_by c.rest.length
decreasing_by simp [past, hrest]

/-- Moving to an offset leads forward. -/
theorem le_moveTo (c : Cursor) (n : Nat) :
  c ≤ c.moveTo n
  := by
  rcases Nat.lt_or_ge c.offset n with hn | hn
  · match hrest : c.rest with
    | [] =>
      rw [moveTo_of_rest_nil hrest]
    | x :: rest =>
      rw [past_moveTo hrest hn]
      apply (le_past hrest).trans (le_moveTo (c.past x rest) n)
  · rw [moveTo_of_le hn]
termination_by c.rest.length
decreasing_by simp [past, hrest]

/-- The places that are passed on the way to offset `n` have smaller offsets. -/
theorem offset_lt_of_lt_moveTo {c d : Cursor} {n : Nat} (h : c ≤ d)
    (hd : d.offset < (c.moveTo n).offset) :
  d.offset < n
  := by
  by_contra hn
  rcases eq_or_past_le h with rfl | ⟨x, rest, hrest, hle⟩
  · rw [moveTo_of_le (by omega)] at hd
    omega
  · have hlt := offset_lt_past c x rest
    have hle' := offset_le hle
    rcases Nat.lt_or_ge c.offset n with hc | hc
    · rw [past_moveTo hrest hc] at hd
      apply hn (offset_lt_of_lt_moveTo hle hd)
    · rw [moveTo_of_le hc] at hd
      omega
termination_by c.rest.length
decreasing_by simp [past, hrest]

theorem past_moveToEnd {c : Cursor} {x : Char} {rest : List Char} (h : c.rest = x :: rest) :
  c.moveToEnd = (c.past x rest).moveToEnd
  := by
  rw [moveToEnd, h]
  rfl

theorem moveToEnd_of_rest_nil {c : Cursor} (h : c.rest = []) :
  c.moveToEnd = c
  := by
  obtain ⟨before, offset, rest⟩ := c
  cases h
  rfl

theorem moveToEnd_eq_along (c : Cursor) :
  c.moveToEnd = c.along c.rest []
  := by
  match hrest : c.rest with
  | [] =>
    rw [moveToEnd_of_rest_nil hrest, ← along_nil c, hrest]
    rfl
  | x :: rest =>
    rw [past_moveToEnd hrest, moveToEnd_eq_along (c.past x rest), along_cons, List.append_nil]
    rfl
termination_by c.rest.length
decreasing_by simp [past, hrest]

/-- The end of the line is behind all its places. -/
theorem le_moveToEnd (c : Cursor) :
  c ≤ c.moveToEnd
  := by
  rw [moveToEnd_eq_along]
  apply le_along
  simp

/-- A place where nothing is left is the end of the line. -/
theorem eq_moveToEnd {c d : Cursor} (h : c ≤ d) (hd : d.rest = []) :
  d = c.moveToEnd
  := by
  obtain ⟨w, hw, hd'⟩ := h
  rw [hd, List.append_nil] at hw
  rw [hd', moveToEnd_eq_along, hw, hd]

/-- All places of a line have the same end. -/
theorem moveToEnd_of_le {c d : Cursor} (h : c ≤ d) :
  d.moveToEnd = c.moveToEnd
  := eq_moveToEnd (h.trans (le_moveToEnd d)) (rest_moveToEnd d)

/-! ### The places of a line -/

/-- A place of a line comes behind a piece of it, which its offset measures. -/
theorem start_le_iff {line : List Char} {c : Cursor} :
  start line ≤ c ↔
    ∃ front, line = front ++ c.rest ∧ c.before = front.getLast? ∧ c.offset = Text.size front
  := by
  rw [le_def]
  constructor
  · rintro ⟨w, hw, hc⟩
    use w, hw
    rw [hc]
    simp [along, start]
  · rintro ⟨w, hw, hbefore, hoffset⟩
    use w, hw
    simp [along, start, ← hbefore, ← hoffset]

/-- The place behind `front`, where `back` is left of the line. -/
def behind (front back : List Char) : Cursor :=
  ⟨front.getLast?, Text.size front, back⟩

theorem start_le_behind (front back : List Char) :
  start (front ++ back) ≤ behind front back
  := start_le_iff.mpr ⟨front, rfl, rfl, rfl⟩

/-- Each place of a line is behind a part of it. -/
theorem exists_eq_behind {line : List Char} {c : Cursor} (h : start line ≤ c) :
  ∃ front, line = front ++ c.rest ∧ c = behind front c.rest
  := by
  obtain ⟨front, hline, hbefore, hoffset⟩ := start_le_iff.mp h
  use front, hline
  rw [behind, ← hbefore, ← hoffset]

theorem along_behind (front w back back' : List Char) :
  (behind front back').along w back = behind (front ++ w) back
  := by rw [behind, behind, along, List.getLast?_append, Text.size_append]

theorem past_behind (front : List Char) (x : Char) (back : List Char) :
  (behind front (x :: back)).past x back = behind (front ++ [x]) back
  := along_behind front [x] back (x :: back)

/-- The places of a line are at offsets between its characters. -/
theorem isBoundary_of_start_le {line : List Char} {c : Cursor} (h : start line ≤ c) :
  Text.IsBoundary line c.offset
  := by
  obtain ⟨front, hline, -, hoffset⟩ := start_le_iff.mp h
  exact ⟨front, c.rest, hline, hoffset⟩

/-- Only the start of a line has no character before it. -/
theorem eq_start_of_before_eq_none {line : List Char} {c : Cursor} (h : start line ≤ c)
    (hbefore : c.before = none) :
  c = start line
  := by
  obtain ⟨w, hw, hc⟩ := h
  have hlast : w.getLast?.or none = none := by
    rw [hc] at hbefore
    apply hbefore
  rw [Option.or_none, List.getLast?_eq_none_iff] at hlast
  subst hlast
  rw [hc, ← List.nil_append c.rest, ← hw]
  rfl

/-- The end of a line is as far as its size. -/
theorem offset_moveToEnd_start (line : List Char) :
  (start line).moveToEnd.offset = Text.size line
  := by
  rw [moveToEnd_eq_along]
  apply Nat.zero_add _

end Cursor

end Highlight
