import Highlight.Proofs.Rule

/-!
# Reading as much as possible

Of the readings at a place, the form alone does not say which one is preferred.  A character and
then as many characters of a set as possible is read up to the first character outside of the set.
-/

namespace Highlight.Pattern

open Form

/-! ### The step of a thread -/

section

variable {p : Pattern} {c : Cursor} {budget : Nat} {t : Thread} {front : Front}

/-- A thread that accepts completes the front. -/
theorem follow_accept (hcomplete : front.complete = none)
    (hseen : front.seen.contains t.state = false) (hstep : p.steps[t.state]? = some .accept) :
  p.follow c (budget + 1) t front =
    { front with
      seen := front.seen.insert t.state
      complete := some ⟨t.start, c.offset, t.marks⟩ }
  := by
  rw [follow, if_neg (by simp [hcomplete, hseen])]
  simp only [hstep]

/-- A thread that takes the next character goes on behind it, and any other ends. -/
theorem follow_take {s : CharSet} {next : Nat} (hcomplete : front.complete = none)
    (hseen : front.seen.contains t.state = false)
    (hstep : p.steps[t.state]? = some (.take s next)) :
  p.follow c (budget + 1) t front =
    { front with
      seen := front.seen.insert t.state
      onward :=
        if c.rest.head?.any s.contains then { t with state := next } :: front.onward
        else front.onward }
  := by
  rw [follow, if_neg (by simp [hcomplete, hseen])]
  simp only [hstep]
  cases c.rest with
  | nil => rfl
  | cons x rest => by_cases hx : s.contains x <;> simp [hx]

/-- A thread that branches is followed both ways, the first way first. -/
theorem follow_branch {first second : Nat} (hcomplete : front.complete = none)
    (hseen : front.seen.contains t.state = false)
    (hstep : p.steps[t.state]? = some (.branch first second)) :
  p.follow c (budget + 1) t front =
    p.follow c budget { t with state := second }
      (p.follow c budget { t with state := first }
        { front with seen := front.seen.insert t.state })
  := by
  rw [follow, if_neg (by simp [hcomplete, hseen])]
  simp only [hstep]

end

/-! ### A character and then as many as possible -/

variable {s t : CharSet} {c : Cursor} {r : Reading}

/-- A character of the one set, and as many characters of the other one as possible. -/
def setThenMany (s t : CharSet) : Pattern :=
  ofForm (inSequence [set s, many (set t)])

/-- State 3 takes the first character. -/
theorem front_entry_setThenMany (s t : CharSet) (c : Cursor) :
  let front := (setThenMany s t).front c [(setThenMany s t).entry c.offset]
  front.complete = none ∧
    front.onward = if c.rest.head?.any s.contains then [⟨2, c.offset, []⟩] else []
  := by
  intro front
  have hfront : front = (setThenMany s t).follow c 4 ⟨3, c.offset, []⟩ {} := rfl
  rw [hfront, follow_take rfl (StateSet.contains_empty 3) rfl]
  exact ⟨rfl, rfl⟩

/-- State 2 is the choice of the loop.  The thread in it is complete at each place, and goes on
where a character of the set follows. -/
theorem front_setThenMany (s t : CharSet) (c : Cursor) (start : Nat) :
  let front := (setThenMany s t).front c [⟨2, start, []⟩]
  front.complete = some ⟨start, c.offset, []⟩ ∧
    front.onward = if c.rest.head?.any t.contains then [⟨2, start, []⟩] else []
  := by
  intro front
  have hfront : front = (setThenMany s t).follow c 4 ⟨2, start, []⟩ {} := rfl
  have hloop : (setThenMany s t).steps[2]? = some (.branch 1 0) := rfl
  rw [hfront, follow_branch rfl (StateSet.contains_empty 2) hloop]
  dsimp only
  rw [follow_take (t := ⟨1, start, []⟩) rfl ?_ rfl, follow_accept rfl ?_ rfl]
  · exact ⟨rfl, rfl⟩
  · simp
  · simp

/-- A run over as many characters as possible ends behind the last of them. -/
theorem run_setThenMany (s t : CharSet) (start : Nat) (best : Option Reading)
    (before : Option Char) (offset : Nat) (rest : List Char) :
  (setThenMany s t).run [⟨2, start, []⟩] best before offset rest =
    some ⟨start, offset + Text.size (rest.takeWhile t.contains), []⟩
  := by
  induction rest generalizing best before offset with
  | nil =>
    obtain ⟨hcomplete, -⟩ := front_setThenMany s t ⟨before, offset, []⟩ start
    rw [run, hcomplete, Option.some_or]
    rfl
  | cons x rest ih =>
    obtain ⟨hcomplete, honward⟩ := front_setThenMany s t ⟨before, offset, x :: rest⟩ start
    rw [run_cons, hcomplete, honward, Option.some_or, List.head?_cons, Option.any_some,
      List.takeWhile_cons]
    split
    next =>
      rw [List.reverse_singleton, ih, Text.size_cons, Nat.add_assoc]
    next =>
      rw [List.reverse_nil, run_nil]
      rfl

/-- The reading ends where the first character outside of the set follows, or the line ends. -/
theorem matchAt_setThenMany (h : (setThenMany s t).matchAt c = some r) :
  ∃ d, c ≤ d ∧ r.stop = d.offset ∧ d.rest.head?.any t.contains = false
  := by
  obtain ⟨before, offset, rest⟩ := c
  obtain ⟨hcomplete, honward⟩ := front_entry_setThenMany s t ⟨before, offset, rest⟩
  rw [matchAt] at h
  cases rest with
  | nil =>
    rw [run, hcomplete] at h
    cases h
  | cons x rest =>
    rw [run_cons, hcomplete, honward] at h
    split at h
    next =>
      rw [List.reverse_singleton, run_setThenMany] at h
      cases h
      have hrest : x :: rest = (x :: rest.takeWhile t.contains) ++ rest.dropWhile t.contains := by
        rw [List.cons_append, List.takeWhile_append_dropWhile]
      refine ⟨_, Cursor.le_along hrest, ?_, ?_⟩
      · rw [Cursor.along, Text.size_cons, Nat.add_assoc]
      · have hhead := List.head?_dropWhile_not t.contains rest
        cases hnext : (rest.dropWhile t.contains).head? with
        | none => simp [Cursor.along, hnext]
        | some y => simpa [Cursor.along, hnext] using hhead
    next =>
      rw [List.reverse_nil, run_nil] at h
      cases h

end Highlight.Pattern
