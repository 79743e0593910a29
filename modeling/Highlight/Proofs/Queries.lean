import Highlight.Proofs.Finding
import Highlight.Proofs.Lookahead

/-!
# Queries to a lookahead

A lookahead is asked where rules are next read on a line, each time from an offset that is not
before those it has been asked about the same rule.  What it remembers about a rule is what a search
from the last of these offsets finds, whichever of the queries has filled it in.  So it answers as a
search would, although it searches only behind the place that it remembers.
-/

namespace Highlight

variable {rules : List Rule} {line : List Char}

namespace Lookahead

theorem size_forMode (l : Lookahead) (mode n : Nat) :
  (l.forMode mode n).places.size = n
  := by
  rw [Lookahead.forMode]
  split
  next h => apply h.2
  next => apply Array.size_replicate

theorem size_search (l : Lookahead) (i : Nat) (r : Rule) (c : Cursor) :
  (l.search i r c).2.places.size = l.places.size
  := Array.size_setIfInBounds

theorem size_next (l : Lookahead) (i : Nat) (r : Rule) (c : Cursor) :
  (l.next i r c).2.places.size = l.places.size
  := by
  rw [Lookahead.next]
  split
  next =>
    split
    next => rfl
    next => apply size_search
  next => rfl
  next => apply size_search

end Lookahead

/-- The query where a rule is next read from an offset of a line on. -/
structure Query (rules : List Rule) where
  index : Fin rules.length
  offset : Nat
  /-- The line is searched even where the answer is known. -/
  again : Bool
deriving DecidableEq, Repr

namespace Query

/-- The place on the line that the query is about. -/
def place (line : List Char) (q : Query rules) : Cursor :=
  (Cursor.start line).moveTo q.offset

/-- What a search of the line for the rule finds. -/
def found (line : List Char) (q : Query rules) : Option Nat :=
  rules[q.index].findFrom line q.offset

/-- What the lookahead answers, and the lookahead afterwards. -/
def ask (line : List Char) (q : Query rules) (l : Lookahead) : Option Nat × Lookahead :=
  if q.again then l.search q.index rules[q.index] (q.place line)
  else l.next q.index rules[q.index] (q.place line)

/-- The answers to queries that are asked in turn, and the lookahead afterwards. -/
def askAll (line : List Char) : List (Query rules) → Lookahead → List (Option Nat) × Lookahead
  | [], l => ([], l)
  | q :: qs, l =>
    let (answer, l) := q.ask line l
    let (answers, l) := askAll line qs l
    (answer :: answers, l)

/-- The offsets that the queries about a rule start from. -/
def offsets (i : Fin rules.length) (qs : List (Query rules)) : List Nat :=
  (qs.filter (·.index = i)).map (·.offset)

variable {q : Query rules} {qs asked : List (Query rules)} {l : Lookahead} {i : Fin rules.length}

theorem askAll_cons (line : List Char) (q : Query rules) (qs : List (Query rules)) (l : Lookahead) :
  askAll line (q :: qs) l
    = ((q.ask line l).1 :: (askAll line qs (q.ask line l).2).1,
      (askAll line qs (q.ask line l).2).2)
  := rfl

theorem place_eq {c : Cursor} (hc : Cursor.start line ≤ c) (hq : q.offset = c.offset) :
  q.place line = c
  := by rw [place, hq, Cursor.moveTo_offset hc]

/-- The place of a query is searched for what the query asks. -/
theorem search_place (hq : Text.IsBoundary line q.offset) :
  rules[q.index].search (q.place line) = q.found line
  := by
  obtain ⟨c, hc, hoffset⟩ := Cursor.exists_of_isBoundary hq
  rw [place_eq hc hoffset.symm, found, ← hoffset, Rule.findFrom_offset hc]

theorem offset_place (hq : Text.IsBoundary line q.offset) :
  (q.place line).offset = q.offset
  := by
  obtain ⟨c, hc, hoffset⟩ := Cursor.exists_of_isBoundary hq
  rw [place_eq hc hoffset.symm, hoffset]

/-! ### Places in range -/

/-- A query does not change for how many rules a place is kept. -/
theorem size_ask (line : List Char) (q : Query rules) (l : Lookahead) :
  (q.ask line l).2.places.size = l.places.size
  := by
  rw [ask]
  split
  next => apply Lookahead.size_search
  next => apply Lookahead.size_next

theorem size_askAll (line : List Char) (qs : List (Query rules)) (l : Lookahead) :
  (askAll line qs l).2.places.size = l.places.size
  := by
  induction qs generalizing l with
  | nil => rfl
  | cons q qs ih => rw [askAll_cons, ih, size_ask]

/-- A choice asks the lookahead about rules of the mode, and changes it in no other way. -/
theorem exists_askAll_amongFrom {stalled : Bool} {c : Cursor} {x : Char} {rest : List Char}
    {rs : List Rule} {next : Option Nat} {n : Nat} (hc : Cursor.start line ≤ c)
    (hrest : c.rest = x :: rest) (hrs : rules.drop n = rs) (l : Lookahead) :
  ∃ qs : List (Query rules),
    (Choice.among stalled c x rest n next rs l).2 = (askAll line qs l).2
  := by
  induction rs generalizing n next l with
  | nil => exact ⟨[], rfl⟩
  | cons r rs ih =>
    have hr : rules[n]? = some r := by
      rw [← Nat.add_zero n, ← List.getElem?_drop, hrs]
      rfl
    have hdrop : rules.drop (n + 1) = rs := by
      rw [← List.drop_drop, hrs]
      rfl
    obtain ⟨hn, hr⟩ := List.getElem?_eq_some_iff.mp hr
    let q : Query rules := ⟨⟨n, hn⟩, c.offset, false⟩
    have hq : l.next n r c = q.ask line l := by
      change _ = l.next n rules[n] (q.place line)
      rw [hr, place_eq hc rfl]
    rw [Choice.among, hq]
    split
    next l' hask =>
      obtain ⟨qs, hqs⟩ := ih hdrop l'
      use q :: qs
      rw [hqs, askAll_cons, hask]
    next m l' hask =>
      split
      next =>
        split
        next =>
          use [q]
          rw [askAll_cons, hask]
          rfl
        next =>
          let q' : Query rules := ⟨⟨n, hn⟩, (c.past x rest).offset, true⟩
          have hq' : l'.search n r (c.past x rest) = q'.ask line l' := by
            change _ = l'.search n rules[n] (q'.place line)
            rw [hr, place_eq (hc.trans (Cursor.le_past hrest)) rfl]
          obtain ⟨qs, hqs⟩ := ih hdrop (q'.ask line l').2
          use q :: q' :: qs
          rw [hq', hqs, askAll_cons, hask, askAll_cons]
      next =>
        obtain ⟨qs, hqs⟩ := ih hdrop l'
        use q :: qs
        rw [hqs, askAll_cons, hask]

end Query

/-! ### What is remembered -/

/-- What is remembered of a rule is so from the last of the offsets on that it has been asked about,
and nothing is remembered if there is none. -/
def NextPlace.Recalls (r : Rule) (line : List Char) (last : Option Nat) : NextPlace → Prop
  | unknown => last = none
  | known m => ∃ n ∈ last, r.FirstReadAt line n m
  | nowhere => ∃ n ∈ last, ∀ m, n ≤ m → ¬r.pattern.ReadsAt line m

/-- What is kept of a search recalls it. -/
theorem NextPlace.recalls_ofSearch {r : Rule} {n : Nat} (hn : Text.IsBoundary line n) :
  (ofSearch (r.findFrom line n)).Recalls r line (some n)
  := by
  cases hfind : r.findFrom line n with
  | none => exact ⟨n, rfl, (Rule.findFrom_eq_none_iff hn).mp hfind⟩
  | some m => exact ⟨n, rfl, (Rule.findFrom_eq_some_iff hn).mp hfind⟩

namespace Query

variable {q : Query rules} {qs asked : List (Query rules)} {l l' : Lookahead}
  {i : Fin rules.length} {n : Nat}

theorem offsets_append (i : Fin rules.length) (qs asked : List (Query rules)) :
  offsets i (asked ++ qs) = offsets i asked ++ offsets i qs
  := by rw [offsets, List.filter_append, List.map_append, offsets, offsets]

/-- The first query is the first of those for its rule. -/
theorem offsets_cons_self (q : Query rules) (qs : List (Query rules)) :
  offsets q.index (q :: qs) = q.offset :: offsets q.index qs
  := by simp [offsets]

theorem offsets_append_ne (hi : i ≠ q.index) (asked : List (Query rules)) :
  offsets i (asked ++ [q]) = offsets i asked
  := by
  rw [offsets_append]
  simp [offsets, hi.symm]

/-- If the offsets of a rule do not decrease, the last is the largest. -/
theorem max?_offsets_append (hle : ∀ n ∈ offsets q.index asked, n ≤ q.offset) :
  (offsets q.index (asked ++ [q])).max? = some q.offset
  := by
  rw [offsets_append, offsets_cons_self, List.max?_eq_some_iff]
  constructor
  · apply List.mem_append_right _ List.mem_cons_self
  · intro n hn
    rcases List.mem_append.mp hn with hn | hn
    · apply hle n hn
    · rw [List.eq_of_mem_singleton hn]

/-- The lookahead has a place for each rule, which recalls what has been asked about it. -/
structure Remembers (line : List Char) (asked : List (Query rules)) (l : Lookahead) : Prop where
  size : l.places.size = rules.length
  recalls : ∀ (i : Fin rules.length) p,
    l.places[i.val]? = some p → p.Recalls rules[i] line (offsets i asked).max?

/-- A fresh lookahead remembers that nothing has been asked. -/
theorem remembers_fresh (mode : Nat) (rules : List Rule) (line : List Char) :
  Remembers line ([] : List (Query rules)) (.fresh mode rules.length)
  where
  size := Array.size_replicate
  recalls i p hp := by
    rw [Lookahead.fresh, Array.getElem?_replicate, if_pos i.isLt] at hp
    cases hp
    rfl

/-- After a query only what is remembered of its rule may change, and it holds from the offset of
the query on. -/
theorem Remembers.updates (h : Remembers line asked l) (hsize : l'.places.size = l.places.size)
    (hupdates : l.Updates q.index l') (hle : ∀ n ∈ offsets q.index asked, n ≤ q.offset)
    (hq : ∀ p, l'.places[q.index.val]? = some p →
      p.Recalls rules[q.index] line (some q.offset)) :
  Remembers line (asked ++ [q]) l'
  where
  size := hsize.trans h.size
  recalls i p hp := by
    rcases eq_or_ne i q.index with rfl | hi
    · rw [max?_offsets_append hle]
      apply hq p hp
    · rw [offsets_append_ne hi]
      rw [hupdates.places i (Fin.val_ne_of_ne hi)] at hp
      apply h.recalls i p hp

/-- A query is answered rightly, and what is remembered after it is right. -/
def Answers (line : List Char) (asked : List (Query rules)) (q : Query rules)
    (result : Option Nat × Lookahead) : Prop :=
  result.1 = q.found line ∧ Remembers line (asked ++ [q]) result.2

/-- A search answers the query, and it is remembered. -/
theorem answers_search (h : Remembers line asked l) (hplace : Text.IsBoundary line q.offset)
    (hle : ∀ n ∈ offsets q.index asked, n ≤ q.offset) :
  Answers line asked q (l.search q.index rules[q.index] (q.place line))
  := by
  constructor
  · apply search_place hplace
  · apply h.updates (Lookahead.size_search ..) (Lookahead.updates_search ..) hle
    intro p hp
    have hi : q.index.val < l.places.size := by
      rw [h.size]
      apply q.index.isLt
    rw [Lookahead.search, Array.getElem?_setIfInBounds_self_of_lt hi, search_place hplace] at hp
    cases hp
    apply NextPlace.recalls_ofSearch hplace

/-- If a place further on is remembered, it is the answer, else the search is. -/
theorem answers_next (h : Remembers line asked l) (hplace : Text.IsBoundary line q.offset)
    (hle : ∀ n ∈ offsets q.index asked, n ≤ q.offset) :
  Answers line asked q (l.next q.index rules[q.index] (q.place line))
  := by
  rw [Lookahead.next]
  split
  next m hm =>
    split
    next hafter =>
      obtain ⟨n, hn, hfirst⟩ := h.recalls q.index _ hm
      have hnq := hle n (List.max?_mem hn)
      rw [offset_place hplace] at hafter
      have hfirst := hfirst.of_le hnq hafter
      constructor
      · apply ((Rule.findFrom_eq_some_iff hplace).mpr hfirst).symm
      · apply h.updates rfl (.refl _ _) hle
        intro p hp
        rw [hm] at hp
        cases hp
        exact ⟨q.offset, rfl, hfirst⟩
    next => apply answers_search h hplace hle
  next hm =>
    obtain ⟨n, hn, hnone⟩ := h.recalls q.index _ hm
    have hnq := hle n (List.max?_mem hn)
    have hnone : ∀ m, q.offset ≤ m → ¬rules[q.index].pattern.ReadsAt line m :=
      fun m hm => hnone m (hnq.trans hm)
    constructor
    · apply ((Rule.findFrom_eq_none_iff hplace).mpr hnone).symm
    · apply h.updates rfl (.refl _ _) hle
      intro p hp
      rw [hm] at hp
      cases hp
      exact ⟨q.offset, rfl, hnone⟩
  next => apply answers_search h hplace hle

/-- A query is answered whether or not something is remembered of its rule. -/
theorem answers_ask (h : Remembers line asked l) (hplace : Text.IsBoundary line q.offset)
    (hle : ∀ n ∈ offsets q.index asked, n ≤ q.offset) :
  Answers line asked q (q.ask line l)
  := by
  rw [ask]
  split
  next => apply answers_search h hplace hle
  next => apply answers_next h hplace hle

theorem le_of_pairwise_offsets (h : (offsets q.index (asked ++ q :: qs)).Pairwise (· ≤ ·)) :
  ∀ n ∈ offsets q.index asked, n ≤ q.offset
  := by
  intro n hn
  rw [offsets_append, offsets_cons_self, List.pairwise_append] at h
  apply h.2.2 n hn q.offset List.mem_cons_self

/-- If the offsets of each rule do not decrease, all queries are answered as if nothing was
remembered, by induction on the queries. -/
theorem answers_askAll (h : Remembers line asked l)
    (hplaces : ∀ q ∈ qs, Text.IsBoundary line q.offset)
    (hsorted : ∀ i, (offsets i (asked ++ qs)).Pairwise (· ≤ ·)) :
  (askAll line qs l).1 = qs.map (found line) ∧ Remembers line (asked ++ qs) (askAll line qs l).2
  := by
  induction qs generalizing asked l with
  | nil =>
    rw [List.append_nil]
    exact ⟨rfl, h⟩
  | cons q qs ih =>
    have hle := le_of_pairwise_offsets (hsorted q.index)
    obtain ⟨hanswer, hremembers⟩ := answers_ask h (hplaces q List.mem_cons_self) hle
    rw [List.append_cons] at hsorted
    obtain ⟨hanswers, hremembers⟩ :=
      ih hremembers (fun q hq => hplaces q (List.mem_cons_of_mem _ hq)) hsorted
    rw [askAll_cons, List.map_cons, hanswer, hanswers, List.append_cons]
    exact ⟨rfl, hremembers⟩

/-- Queries that are about the same rule only from later and later offsets are answered as a search
of the line does.  What is then remembered of a rule is so from the last of its offsets on.  A
lookahead for a mode has a place for each of its rules, whatever it is asked, and the choice at a
place only asks it. -/
theorem askAll_fresh (mode : Nat) (rules : List Rule) (line : List Char) (qs : List (Query rules))
    (hplaces : ∀ q ∈ qs, Text.IsBoundary line q.offset)
    (hsorted : ∀ i, (offsets i qs).Pairwise (· ≤ ·)) :
  let asked := askAll line qs (.fresh mode rules.length)
  asked.1 = qs.map (fun q => rules[q.index].findFrom line q.offset) ∧
  (∀ i : Fin rules.length, ∃ p, asked.2.places[i.val]? = some p ∧
    p.Recalls rules[i] line (offsets i qs).max?) ∧
  ∀ l : Lookahead, let made := l.forMode mode rules.length
    (∀ qs : List (Query rules), (askAll line qs made).2.places.size = rules.length) ∧
    ∀ stalled c x rest, Cursor.start line ≤ c → c.rest = x :: rest →
      ∃ qs : List (Query rules),
        (Choice.among stalled c x rest 0 none rules made).2 = (askAll line qs made).2
  := by
  obtain ⟨hanswers, hremembers⟩ :=
    answers_askAll (remembers_fresh mode rules line) hplaces hsorted
  refine ⟨hanswers, ?_, ?_⟩
  · intro i
    have hplace := Array.getElem?_eq_getElem (i.isLt.trans_eq hremembers.size.symm)
    exact ⟨_, hplace, hremembers.recalls i _ hplace⟩
  · intro l
    constructor
    · intro qs
      rw [size_askAll, Lookahead.size_forMode]
    · intro stalled c x rest hc hrest
      apply exists_askAll_amongFrom hc hrest rfl

/-- Numbers and comments are asked about in turn.  The place of the number is remembered until the
line is searched behind it, and that there is no comment is remembered for good. -/
theorem askAll_fresh_number :
  let rules : List Rule :=
    [{ name := "number", kind := .number, group := some 1,
       pattern := .ofForm (.inSequence
         [.alt (.assertion .textStart) (.set .space), .group 1 (.many1 (.set .digit)),
           .alt (.set .space) (.assertion .textEnd)]) },
     { name := "comment", kind := .comment, pattern := .ofForm (.set (.single '#')) }]
  let line := "x 12 y".toList
  let qs : List (Query rules) :=
    [⟨0, 0, false⟩, ⟨1, 0, false⟩, ⟨0, 1, false⟩, ⟨1, 4, true⟩, ⟨0, 2, false⟩, ⟨1, 6, false⟩]
  (∀ q ∈ qs, Text.IsBoundary line q.offset) ∧ (∀ i, (offsets i qs).Pairwise (· ≤ ·)) ∧
    (qs.map fun q => rules[q.index].findFrom line q.offset)
      = [some 1, none, some 1, none, none, none]
  := by
  intro rules line qs
  have hplaces : ∀ q ∈ qs, Text.IsBoundary line q.offset := by
    have hsize : ∀ q ∈ qs, Text.size (line.take q.offset) = q.offset := by decide
    intro q hq
    exact ⟨line.take q.offset, line.drop q.offset, (List.take_append_drop ..).symm,
      (hsize q hq).symm⟩
  have hsorted : ∀ i, (offsets i qs).Pairwise (· ≤ ·) := by decide
  use hplaces, hsorted
  rw [← (askAll_fresh 0 rules line qs hplaces hsorted).1]
  decide

end Query

end Highlight
