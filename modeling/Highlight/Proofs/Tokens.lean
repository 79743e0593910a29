import Mathlib.Data.List.Chain
import Mathlib.Data.List.Pairwise
import Highlight.Grammar.State
import Highlight.Proofs.Places

/-!
# Tokens that cover a line

Tokens cover the way between two places when each one starts where the one before it ends.  Joining
the unclassified ones among them that follow each other keeps this, and `Token.push` joins them one
at a time.
-/

namespace Highlight

namespace Token

/-! ### Joining -/

/-- Both tokens are unclassified, and the second one follows the first one without a gap. -/
def Joins (t u : Token) : Prop :=
  t.kind = .default ∧ u.kind = .default ∧ t.stop = u.start

instance (t u : Token) : Decidable (t.Joins u) :=
  inferInstanceAs (Decidable (_ ∧ _))

/-- The tokens with those that join made one. -/
def joined : List Token → List Token
  | [] => []
  | t :: ts =>
    match joined ts with
    | [] => [t]
    | u :: us => if t.Joins u then ⟨t.start, u.stop, .default⟩ :: us else t :: u :: us

/-- No token joins the one behind it. -/
def Apart (ts : List Token) : Prop :=
  ts.IsChain fun t u => ¬t.Joins u

/-- Tokens that are apart are not joined. -/
theorem joined_of_apart {ts : List Token} (h : Apart ts) :
  joined ts = ts
  := by
  induction ts with
  | nil => rfl
  | cons t ts ih =>
    rw [joined, ih h.tail]
    cases ts with
    | nil => rfl
    | cons u us => apply if_neg (List.isChain_cons_cons.mp h).1

/-- Joined tokens are apart: no two neighbours are unclassified. -/
theorem apart_joined (ts : List Token) :
  Apart (joined ts)
  := by
  induction ts with
  | nil => exact .nil
  | cons t ts ih =>
    rw [joined]
    split
    next => exact .singleton t
    next u us hjoined =>
      rw [hjoined] at ih
      split
      next htu =>
        cases us with
        | nil => exact .singleton _
        | cons v us =>
          rw [Apart, List.isChain_cons_cons] at ih ⊢
          refine ⟨fun huv => ih.1 ⟨htu.2.1, huv.2⟩, ih.2⟩
      next htu => apply List.isChain_cons_cons.mpr ⟨htu, ih⟩

/-- Where tokens meet, those that do not join are not both unclassified. -/
theorem Apart.alternate {ts : List Token} (h : Apart ts)
    (hmeet : ts.IsChain fun t u => t.stop = u.start) :
  ts.IsChain fun t u => ¬(t.kind = .default ∧ u.kind = .default)
  := by
  induction hmeet with
  | nil => apply List.IsChain.nil
  | singleton t => apply List.IsChain.singleton
  | cons_cons htu _ ih =>
    obtain ⟨hjoins, h⟩ := List.isChain_cons_cons.mp h
    apply List.isChain_cons_cons.mpr
    constructor
    · rintro ⟨ht, hu⟩
      apply hjoins ⟨ht, hu, htu⟩
    · apply ih h

/-- Tokens can be joined at the end first. -/
theorem joined_append_congr (front : List Token) {ts us : List Token}
    (h : joined ts = joined us) :
  joined (front ++ ts) = joined (front ++ us)
  := by
  induction front with
  | nil => apply h
  | cons t front ih => simp only [List.cons_append, joined, ih]

/-- Two tokens that join may be made one before the others are joined. -/
theorem joined_of_joins {t u : Token} (h : t.Joins u) (ts : List Token) :
  joined (⟨t.start, u.stop, .default⟩ :: ts) = joined (t :: u :: ts)
  := by
  obtain ⟨ht, hu, htu⟩ := h
  simp only [joined]
  cases joined ts with
  | nil => simp [Joins, ht, hu, htu]
  | cons v vs =>
    by_cases hv : v.kind = .default ∧ u.stop = v.start <;> simp [Joins, ht, hu, htu, hv]

/-- The tokens put behind earlier ones, one after another, in reverse order. -/
def pushAll (ts earlier : List Token) : List Token :=
  ts.foldl (fun earlier t => t.push earlier) earlier

theorem pushAll_append (ts us earlier : List Token) :
  pushAll (ts ++ us) earlier = pushAll us (pushAll ts earlier)
  := List.foldl_append

/-- A token can be pushed before the others are joined. -/
theorem joined_push (t : Token) (earlier ts : List Token) :
  joined ((t.push earlier).reverse ++ ts) = joined (earlier.reverse ++ t :: ts)
  := by
  cases earlier with
  | nil => rfl
  | cons last earlier =>
    rw [push]
    split
    next h =>
      obtain ⟨ht, hlast, hstop⟩ := h
      simp only [List.reverse_cons, List.append_assoc, List.singleton_append]
      apply joined_append_congr
      rw [hlast]
      apply joined_of_joins ⟨hlast, ht, hstop⟩ ts
    next => simp only [List.reverse_cons, List.append_assoc, List.cons_append, List.nil_append]

/-- Tokens stay apart when one is pushed. -/
theorem apart_reverse_push {earlier : List Token} (h : Apart earlier.reverse) (t : Token) :
  Apart (t.push earlier).reverse
  := by
  rw [Apart, List.isChain_reverse] at h ⊢
  cases earlier with
  | nil => exact .singleton t
  | cons last earlier =>
    rw [push]
    split
    next =>
      cases earlier with
      | nil => exact .singleton _
      | cons u earlier =>
        rw [List.isChain_cons_cons] at h ⊢
        apply h
    next hjoins =>
      apply List.isChain_cons_cons.mpr
      exact ⟨fun hj => hjoins ⟨hj.2.1, hj.1, hj.2.2⟩, h⟩

/-- Putting tokens behind each other one at a time joins them. -/
theorem reverse_pushAll (ts : List Token) :
  (pushAll ts []).reverse = joined ts
  := by
  have key : ∀ earlier, Apart earlier.reverse →
      (pushAll ts earlier).reverse = joined (earlier.reverse ++ ts) := by
    induction ts with
    | nil =>
      intro earlier h
      rw [List.append_nil, joined_of_apart h]
      rfl
    | cons t ts ih =>
      intro earlier h
      rw [← joined_push]
      apply ih _ (apart_reverse_push h t)
  apply key [] .nil

/-- Unclassified text is put behind other tokens in one piece or in two. -/
theorem push_push (a b e : Nat) (earlier : List Token) :
  push ⟨b, e, .default⟩ (push ⟨a, b, .default⟩ earlier) = push ⟨a, e, .default⟩ earlier
  := by
  cases earlier with
  | nil => simp [push]
  | cons last earlier =>
    by_cases h : last.kind = .default ∧ last.stop = a <;> simp [push, h]

end Token

namespace Cursor

/-! ### Covering -/

/-- The tokens cover the way between two places, each of them a part of it. -/
def CoveredBy : (c : Cursor) → List Token → (d : Cursor) → Prop
  | c, [], d => c = d
  | c, t :: ts, d =>
    ∃ e, c ≤ e ∧ c.offset < e.offset ∧ t.start = c.offset ∧ t.stop = e.offset ∧ e.CoveredBy ts d

variable {c d e : Cursor} {ts us : List Token}

/-- Pieces that are covered one after another are covered together. -/
theorem CoveredBy.append (h : c.CoveredBy ts d) (h' : d.CoveredBy us e) :
  c.CoveredBy (ts ++ us) e
  := by
  induction ts generalizing c with
  | nil =>
    obtain rfl := h
    apply h'
  | cons t ts ih =>
    obtain ⟨f, hle, hlt, hstart, hstop, h⟩ := h
    exact ⟨f, hle, hlt, hstart, hstop, ih h⟩

/-- A piece that is not empty is covered by its token. -/
theorem CoveredBy.single (hle : c ≤ d) (hlt : c.offset < d.offset) (k : TokenKind) :
  c.CoveredBy [⟨c.offset, d.offset, k⟩] d
  := ⟨d, hle, hlt, rfl, rfl, rfl⟩

/-- A piece of any length, left out if it is empty. -/
theorem CoveredBy.piece (hle : c ≤ d) (k : TokenKind) :
  c.CoveredBy (if c.offset < d.offset then [⟨c.offset, d.offset, k⟩] else []) d
  := by
  split
  next hlt => exact .single hle hlt k
  next hlt =>
    apply eq_of_offset_eq (le_refl c) hle
    have := offset_le hle
    omega

/-- A piece stays covered when its tokens are joined. -/
theorem CoveredBy.joined (h : c.CoveredBy ts d) :
  c.CoveredBy (Token.joined ts) d
  := by
  induction ts generalizing c with
  | nil => apply h
  | cons t ts ih =>
    obtain ⟨e, hle, hlt, hstart, hstop, h⟩ := h
    replace h := ih h
    rw [Token.joined]
    split
    next hjoined =>
      rw [hjoined] at h
      exact ⟨e, hle, hlt, hstart, hstop, h⟩
    next u us hjoined =>
      rw [hjoined] at h
      split
      next =>
        obtain ⟨f, hle', hlt', -, hstop', h⟩ := h
        exact ⟨f, hle.trans hle', hlt.trans hlt', hstart, hstop', h⟩
      next => exact ⟨e, hle, hlt, hstart, hstop, h⟩

/-- A piece that is covered leads forward. -/
theorem CoveredBy.le (h : c.CoveredBy ts d) :
  c ≤ d
  := by
  induction ts generalizing c with
  | nil =>
    obtain rfl := h
    apply le_refl
  | cons t ts ih =>
    obtain ⟨e, hle, -, -, -, h⟩ := h
    apply hle.trans (ih h)

/-- Every token is a part of the way with two ends that lie apart. -/
theorem CoveredBy.exists_ends (h : c.CoveredBy ts d) {t : Token} (ht : t ∈ ts) :
  ∃ a b, c ≤ a ∧ a ≤ b ∧ a.offset < b.offset ∧ t.start = a.offset ∧ t.stop = b.offset
  := by
  induction ts generalizing c with
  | nil => cases ht
  | cons u ts ih =>
    obtain ⟨f, hle, hlt, hstart, hstop, h⟩ := h
    rcases List.mem_cons.mp ht with rfl | ht
    · use c, f, le_refl c, hle, hlt, hstart, hstop
    · obtain ⟨a, b, ha, h⟩ := ih h ht
      exact ⟨a, b, hle.trans ha, h⟩

/-- No token ends behind the piece. -/
theorem CoveredBy.stop_le (h : c.CoveredBy ts d) {t : Token} (ht : t ∈ ts) :
  t.stop ≤ d.offset
  := by
  induction ts generalizing c with
  | nil => cases ht
  | cons u ts ih =>
    obtain ⟨e, -, -, -, hstop, h⟩ := h
    rcases List.mem_cons.mp ht with rfl | ht
    · rw [hstop]
      apply offset_le h.le
    · apply ih h ht

/-- Tokens in two parts cover two parts of the way. -/
theorem CoveredBy.exists_between (h : c.CoveredBy (ts ++ us) d) :
  ∃ e, c.CoveredBy ts e ∧ e.CoveredBy us d
  := by
  induction ts generalizing c with
  | nil => exact ⟨c, rfl, h⟩
  | cons t ts ih =>
    obtain ⟨f, hle, hlt, hstart, hstop, h⟩ := h
    obtain ⟨e, hts, hus⟩ := ih h
    exact ⟨e, ⟨f, hle, hlt, hstart, hstop, hts⟩, hus⟩

/-- At the end of the way there is no token. -/
theorem CoveredBy.eq_nil (h : c.CoveredBy ts d) (hle : d.offset ≤ c.offset) :
  ts = []
  := by
  cases ts with
  | nil => rfl
  | cons t ts =>
    obtain ⟨e, -, hlt, -, -, h⟩ := h
    have := offset_le h.le
    omega

/-- The tokens follow each other. -/
theorem CoveredBy.pairwise (h : c.CoveredBy ts d) :
  ts.Pairwise fun t u => t.stop ≤ u.start
  := by
  induction ts generalizing c with
  | nil => apply List.Pairwise.nil
  | cons t ts ih =>
    obtain ⟨e, -, -, -, hstop, h⟩ := h
    apply List.Pairwise.cons _ (ih h)
    intro u hu
    obtain ⟨a, b, ha, -, -, hstart, -⟩ := h.exists_ends hu
    rw [hstop, hstart]
    apply offset_le ha

/-- No token covers two parts of a piece. -/
theorem CoveredBy.nodup (h : c.CoveredBy ts d) :
  ts.Nodup
  := by
  apply h.pairwise.imp_of_mem
  rintro t _ ht - hle rfl
  obtain ⟨a, b, -, -, hlt, hstart, hstop⟩ := h.exists_ends ht
  omega

/-- Each byte belongs to one token only. -/
theorem CoveredBy.unique (h : c.CoveredBy ts d) {t u : Token} {n : Nat} (ht : t ∈ ts) (hu : u ∈ ts)
    (htn : t.start ≤ n ∧ n < t.stop) (hun : u.start ≤ n ∧ n < u.stop) :
  t = u
  := by
  by_contra hne
  have hsymm : Std.Symm fun t u : Token => t.stop ≤ u.start ∨ u.stop ≤ t.start :=
    ⟨fun _ _ => Or.symm⟩
  have hapart : ts.Pairwise fun t u => t.stop ≤ u.start ∨ u.stop ≤ t.start := h.pairwise.imp .inl
  rcases hapart.forall ht hu hne with hle | hle <;> omega

/-- The first token starts with the piece. -/
theorem CoveredBy.start_head (h : c.CoveredBy ts d) :
  ∀ t ∈ ts.head?, t.start = c.offset
  := by
  intro t ht
  cases ts with
  | nil => cases ht
  | cons u ts =>
    cases ht
    obtain ⟨-, -, -, hstart, -⟩ := h
    apply hstart

/-- Each token starts where the one before it ends. -/
theorem CoveredBy.meet (h : c.CoveredBy ts d) :
  ts.IsChain fun t u => t.stop = u.start
  := by
  induction ts generalizing c with
  | nil => apply List.IsChain.nil
  | cons t ts ih =>
    obtain ⟨e, -, -, -, hstop, h⟩ := h
    cases ts with
    | nil => apply List.IsChain.singleton
    | cons u ts =>
      apply List.isChain_cons_cons.mpr
      constructor
      · rw [hstop, h.start_head u rfl]
      · apply ih h

/-- The last token ends with the piece. -/
theorem CoveredBy.stop_getLast (h : c.CoveredBy ts d) :
  ∀ t ∈ ts.getLast?, t.stop = d.offset
  := by
  induction ts generalizing c with
  | nil => nofun
  | cons t ts ih =>
    obtain ⟨e, -, -, -, hstop, h⟩ := h
    cases ts with
    | nil =>
      rintro _ ⟨⟩
      obtain rfl := h
      apply hstop
    | cons u ts =>
      rw [List.getLast?_cons_cons]
      apply ih h

/-- The texts of the tokens make up the text that they cover. -/
theorem CoveredBy.text {line : List Char} (hc : start line ≤ c) (h : c.CoveredBy ts d) :
  ts.flatMap (·.text line) ++ d.rest = c.rest
  := by
  induction ts generalizing c with
  | nil =>
    obtain rfl := h
    rfl
  | cons t ts ih =>
    obtain ⟨e, hle, -, hstart, hstop, h⟩ := h
    obtain ⟨front, hline, -, hoffset⟩ := start_le_iff.mp hc
    have ih := ih (hc.trans hle) h
    obtain ⟨piece, hrest, he⟩ := le_def.mp hle
    have hend : e.offset = c.offset + Text.size piece := by
      rw [he]
      rfl
    rw [List.flatMap_cons, List.append_assoc, ih, hrest, Token.text, hstart, hstop, hend, hoffset,
      hline, hrest, Text.slice?_size, Option.getD_some]

/-- The text of a token is what stands between its ends. -/
theorem along_text {line : List Char} {t : Token} (ha : start line ≤ c)
    (hle : c ≤ d) (hlt : c.offset < d.offset) (hstart : t.start = c.offset)
    (hstop : t.stop = d.offset) :
  c.rest = t.text line ++ d.rest ∧ d = c.along (t.text line) d.rest
  := by
  have hcovered : c.CoveredBy [t] d := ⟨d, hle, hlt, hstart, hstop, rfl⟩
  have htext := hcovered.text ha
  rw [List.flatMap_singleton] at htext
  use htext.symm
  obtain ⟨w, hw, hd⟩ := hle
  rw [hw] at htext
  rw [List.append_cancel_right htext]
  apply hd

/-- Some token covers a byte exactly when the byte lies on the way. -/
theorem CoveredBy.find?_covers (h : c.CoveredBy ts d) (n : Nat) :
  (ts.find? (·.covers n)).isSome ↔ c.offset ≤ n ∧ n < d.offset
  := by
  induction ts generalizing c with
  | nil =>
    obtain rfl := h
    simp
  | cons t ts ih =>
    obtain ⟨e, -, hlt, hstart, hstop, h⟩ := h
    have ih := ih h
    have hle := offset_le h.le
    rw [List.find?_cons, Token.covers, hstart, hstop]
    split
    next hcovers =>
      simp only [Bool.and_eq_true, decide_eq_true_eq] at hcovers
      simp only [Option.isSome_some, true_iff]
      omega
    next hcovers =>
      simp only [Bool.and_eq_false_iff, decide_eq_false_iff_not] at hcovers
      rw [ih]
      omega

end Cursor

end Highlight
