import Highlight.Pattern.Reading
import Highlight.Proofs.Places

/-!
# Paths through a pattern

A path leads from a state at one place of a line through the steps of a pattern to acceptance at
another place, and passes marks on its way.  `Pattern.front` follows all paths at once and drops
a thread whose state has been reached before.  Nothing is lost by that: a reading exists exactly
when there is a path, and the search finds the first place from which there is one.
-/

namespace Highlight.Pattern

/-- Marks with the offsets at which they are passed, in the order of passing. -/
abbrev Marks := List (Mark × Nat)

namespace Step

/-- The step leads to the state `next` at the place `c` without taking text. -/
inductive Passes (c : Cursor) : Step → Nat → Prop where
  | check {a : Assertion} {next : Nat} (h : a.holds c) : Passes c (.check a next) next
  | mark {m : Mark} {next : Nat} : Passes c (.mark m next) next
  | first {first second : Nat} : Passes c (.branch first second) first
  | second {first second : Nat} : Passes c (.branch first second) second

/-- What is marked when the step is made at an offset. -/
def marks (offset : Nat) : Step → Marks
  | .mark m _ => [(m, offset)]
  | _ => []

end Step

/-- From the state at the place `c`, as many steps as `length` says lead to acceptance at the
place `d`, and the marks are passed. -/
inductive Path (steps : Array Step) : (length state : Nat) → Cursor → Marks → Cursor → Prop where
  | accept {state : Nat} {c : Cursor} (h : steps[state]? = some .accept) :
      Path steps 0 state c [] c
  | take {length state next : Nat} {c d : Cursor} {ms : Marks} {s : CharSet} {x : Char}
      {rest : List Char} (h : steps[state]? = some (.take s next)) (hrest : c.rest = x :: rest)
      (hx : s.contains x) (path : Path steps length next (c.past x rest) ms d) :
      Path steps (length + 1) state c ms d
  | pass {length state next : Nat} {c d : Cursor} {ms : Marks} {step : Step}
      (h : steps[state]? = some step) (hstep : step.Passes c next)
      (path : Path steps length next c ms d) :
      Path steps (length + 1) state c (step.marks c.offset ++ ms) d

/-- A path leads forward. -/
theorem Path.le {steps : Array Step} {n s : Nat} {c d : Cursor} {ms : Marks}
    (h : Path steps n s c ms d) :
  c ≤ d
  := by
  induction h with
  | accept => apply le_refl
  | take _ hrest _ _ ih => exact (Cursor.le_past hrest).trans ih
  | pass _ _ _ ih => apply ih

/-- Some path leads from the state at the place to acceptance. -/
def Completes (steps : Array Step) (state : Nat) (c : Cursor) : Prop :=
  ∃ n ms d, Path steps n state c ms d

/-- A state that takes the next character completes if the state behind it does. -/
theorem Completes.take {steps : Array Step} {state next : Nat} {c : Cursor} {s : CharSet}
    {x : Char} {rest : List Char} (h : steps[state]? = some (.take s next))
    (hrest : c.rest = x :: rest) (hx : s.contains x)
    (hc : Completes steps next (c.past x rest)) :
  Completes steps state c
  := by
  obtain ⟨n, ms, d, path⟩ := hc
  exact ⟨_, _, _, .take h hrest hx path⟩

/-- A state that is passed without taking a character completes if the next one does. -/
theorem Completes.pass {steps : Array Step} {state next : Nat} {c : Cursor} {step : Step}
    (h : steps[state]? = some step) (hstep : step.Passes c next)
    (hc : Completes steps next c) :
  Completes steps state c
  := by
  obtain ⟨n, ms, d, path⟩ := hc
  exact ⟨_, _, _, .pass h hstep path⟩

theorem Completes.lt_size {steps : Array Step} {state : Nat} {c : Cursor}
    (h : Completes steps state c) :
  state < steps.size
  := by
  obtain ⟨n, ms, d, path⟩ := h
  cases path with
  | accept h => exact (Array.getElem?_eq_some_iff.mp h).1
  | take h => exact (Array.getElem?_eq_some_iff.mp h).1
  | pass h => exact (Array.getElem?_eq_some_iff.mp h).1

variable {p : Pattern} {c : Cursor} {t : Thread} {front front' : Front}

/-! ### Following one thread -/

/-- The thread takes the next character and can be completed behind it. -/
def GoesOn (p : Pattern) (c : Cursor) (t : Thread) : Prop :=
  ∃ x rest, c.rest = x :: rest ∧ Completes p.steps t.state (c.past x rest)

/-- All that `front'` has in addition to `front` comes from the thread `t`. -/
structure Grows (p : Pattern) (c : Cursor) (t : Thread) (front front' : Front) : Prop where
  seen : ∀ s, front.seen.contains s → front'.seen.contains s
  newSeen : ∀ s, front'.seen.contains s →
    front.seen.contains s ∨ (Completes p.steps s c → Completes p.steps t.state c)
  onward : ∃ new, front'.onward = new ++ front.onward ∧
    ∀ u ∈ new, u.start = t.start ∧ (p.GoesOn c u → Completes p.steps t.state c)
  complete : front'.complete = front.complete ∨
    Completes p.steps t.state c ∧ ∃ r, front'.complete = some r ∧ r.start = t.start

namespace Grows

theorem refl (p : Pattern) (c : Cursor) (t : Thread) (front : Front) :
  p.Grows c t front front
  where
  seen _ h := h
  newSeen _ h := .inl h
  onward := ⟨[], rfl, by simp⟩
  complete := .inl rfl

/-- What grows in two steps grows. -/
theorem trans {front₁ front₂ : Front} (h₁ : p.Grows c t front front₁)
    (h₂ : p.Grows c t front₁ front₂) :
  p.Grows c t front front₂
  where
  seen s h := h₂.seen s (h₁.seen s h)
  newSeen s h := by
    rcases h₂.newSeen s h with h | h
    · apply h₁.newSeen s h
    · exact .inr h
  onward := by
    obtain ⟨new₁, ho₁, hn₁⟩ := h₁.onward
    obtain ⟨new₂, ho₂, hn₂⟩ := h₂.onward
    use new₂ ++ new₁
    constructor
    · rw [ho₂, ho₁, List.append_assoc]
    · intro u hu
      rcases List.mem_append.mp hu with hu | hu
      · apply hn₂ u hu
      · apply hn₁ u hu
  complete := by
    rcases h₂.complete with h | h
    · rw [h]
      apply h₁.complete
    · exact .inr h

/-- What comes from a thread that `t` turns into comes from `t`. -/
theorem of_thread {u : Thread} (h : p.Grows c u front front') (hstart : u.start = t.start)
    (hstate : Completes p.steps u.state c → Completes p.steps t.state c) :
  p.Grows c t front front'
  where
  seen := h.seen
  newSeen s hs := (h.newSeen s hs).imp_right fun hu hc => hstate (hu hc)
  onward := by
    obtain ⟨new, ho, hn⟩ := h.onward
    use new, ho
    intro v hv
    obtain ⟨hv₁, hv₂⟩ := hn v hv
    exact ⟨hv₁.trans hstart, fun hg => hstate (hv₂ hg)⟩
  complete := by
    rcases h.complete with h | ⟨hc, r, hr, hrs⟩
    · exact .inl h
    · exact .inr ⟨hstate hc, r, hr, hrs.trans hstart⟩

/-- A front grows when a state is marked as seen. -/
theorem insert (p : Pattern) (c : Cursor) (t : Thread) (front : Front) :
  p.Grows c t front { front with seen := front.seen.insert t.state }
  where
  seen s h := by simp [h]
  newSeen s h := by
    rw [StateSet.contains_insert, Bool.or_eq_true, beq_iff_eq] at h
    rcases h with h | rfl
    · exact .inl h
    · exact .inr id
  onward := ⟨[], rfl, by simp⟩
  complete := .inl rfl

/-- A front grows when a reading is completed. -/
theorem accept (h : p.steps[t.state]? = some .accept) :
  p.Grows c t front { front with complete := some ⟨t.start, c.offset, t.marks⟩ }
  where
  seen _ h := h
  newSeen _ h := .inl h
  onward := ⟨[], rfl, by simp⟩
  complete := .inr ⟨⟨_, _, _, .accept h⟩, _, rfl, rfl⟩

/-- A front grows when a thread goes on behind a character. -/
theorem take {s : CharSet} {next : Nat} {x : Char} {rest : List Char}
    (h : p.steps[t.state]? = some (.take s next)) (hrest : c.rest = x :: rest)
    (hx : s.contains x) :
  p.Grows c t front { front with onward := { t with state := next } :: front.onward }
  where
  seen _ h := h
  newSeen _ h := .inl h
  onward := by
    use [{ t with state := next }], rfl
    intro u hu
    rw [List.mem_singleton.mp hu]
    use rfl
    rintro ⟨y, rest', hrest', hc⟩
    rw [hrest] at hrest'
    cases hrest'
    apply hc.take h hrest hx
  complete := .inl rfl

end Grows

/-- Nothing is followed behind a reading that is complete. -/
theorem follow_of_complete (budget : Nat) (h : front.complete.isSome) :
  p.follow c budget t front = front
  := by
  cases budget with
  | zero => rfl
  | succ budget => rw [follow, if_pos (by rw [h, Bool.true_or])]

/-- A front grows when a thread is followed, with any budget. -/
theorem grows_follow (p : Pattern) (c : Cursor) (budget : Nat) (t : Thread) (front : Front) :
  p.Grows c t front (p.follow c budget t front)
  := by
  induction budget generalizing t front with
  | zero => apply Grows.refl
  | succ budget ih =>
    rw [follow]
    split
    · apply Grows.refl
    · have h := Grows.insert p c t front
      split
      next => apply h
      next hstep => apply h.trans (.accept hstep)
      next s next hstep =>
        split
        next => apply h
        next x rest hrest =>
          split
          next hx => apply h.trans (.take hstep hrest hx)
          next => apply h
      next a next hstep =>
        split
        next ha => exact h.trans ((ih _ _).of_thread rfl (.pass hstep (.check ha)))
        next => apply h
      next m next hstep => exact h.trans ((ih _ _).of_thread rfl (.pass hstep .mark))
      next first second hstep =>
        apply h.trans
        apply Grows.trans
        · exact (ih { t with state := first } _).of_thread rfl (.pass hstep .first)
        · exact (ih { t with state := second } _).of_thread rfl (.pass hstep .second)

/-- What comes from the thread behind a step that passes comes from the thread. -/
theorem grows_follow_of_pass {step : Step} {next : Nat} (h : p.steps[t.state]? = some step)
    (hstep : step.Passes c next) (budget : Nat) (ms : Marks) (front : Front) :
  p.Grows c t front (p.follow c budget ⟨next, t.start, ms⟩ front)
  := (grows_follow p c budget ⟨next, t.start, ms⟩ front).of_thread rfl (.pass h hstep)

/-! ### The states behind a thread -/

/-- The state has been reached, or it is none of the pattern. -/
def Covered (p : Pattern) (front : Front) (s : Nat) : Prop :=
  p.steps.size ≤ s ∨ front.seen.contains s

/-- All that a state leads to is in the front. -/
def Exhausted (p : Pattern) (c : Cursor) (front : Front) (s : Nat) : Prop :=
  ∀ step, p.steps[s]? = some step → step ≠ .accept ∧
    (∀ next, step.Passes c next → p.Covered front next) ∧
    ∀ set next x rest, step = .take set next → c.rest = x :: rest → set.contains x →
      ∃ u ∈ front.onward, u.state = next

/-- What is covered stays so when the front grows. -/
theorem Covered.mono {s : Nat} (h : p.Covered front s) (hg : p.Grows c t front front') :
  p.Covered front' s
  := h.imp_right (hg.seen s)

/-- What is exhausted stays so when the front grows. -/
theorem Exhausted.mono {s : Nat} (h : p.Exhausted c front s) (hg : p.Grows c t front front') :
  p.Exhausted c front' s
  := by
  intro step hstep
  obtain ⟨haccept, hpass, htake⟩ := h step hstep
  refine ⟨haccept, fun next hn => (hpass next hn).mono hg, ?_⟩
  intro set next x rest hset hrest hx
  obtain ⟨u, hu, hstate⟩ := htake set next x rest hset hrest hx
  obtain ⟨new, ho, -⟩ := hg.onward
  use u
  rw [ho]
  exact ⟨List.mem_append_right _ hu, hstate⟩

/-- The number of states of the pattern that have not been reached. -/
def unseen (p : Pattern) (front : Front) : Nat :=
  (List.range p.steps.size).countP fun s => !front.seen.contains s

theorem unseen_le_size (p : Pattern) (front : Front) :
  p.unseen front ≤ p.steps.size
  := by
  have := List.countP_le_length (p := fun s => !front.seen.contains s)
    (l := List.range p.steps.size)
  rwa [List.length_range] at this

/-- No state becomes unseen. -/
theorem unseen_mono (h : p.Grows c t front front') :
  p.unseen front' ≤ p.unseen front
  := by
  apply List.countP_mono_left
  intro s _ hs
  simp only [Bool.not_eq_true'] at hs ⊢
  by_contra hc
  rw [Bool.not_eq_false] at hc
  rw [h.seen s hc] at hs
  cases hs

/-- If no state is unseen, all states are covered. -/
theorem covered_of_unseen (h : p.unseen front = 0) (s : Nat) :
  p.Covered front s
  := by
  rcases Nat.lt_or_ge s p.steps.size with hs | hs
  · right
    have := List.countP_eq_zero.mp h s (List.mem_range.mpr hs)
    simpa using this
  · exact .inl hs

/-- Fewer states are unseen when one more is marked. -/
theorem unseen_insert_lt {s : Nat} (hs : s < p.steps.size) (h : front.seen.contains s = false) :
  p.unseen { front with seen := front.seen.insert s } < p.unseen front
  := by
  obtain ⟨as, bs, hrange⟩ := List.append_of_mem (List.mem_range.mpr hs)
  have hle : ∀ l : List Nat, l.countP (fun n => !(front.seen.insert s).contains n)
      ≤ l.countP fun n => !front.seen.contains n := by
    intro l
    apply List.countP_mono_left
    intro n _ hn
    simp_all
  simp only [unseen, hrange, List.countP_append, List.countP_cons, h, StateSet.contains_insert,
    BEq.rfl, Bool.or_true, Bool.not_true, Bool.not_false, if_true, Bool.false_eq_true, if_false]
  have := hle as
  have := hle bs
  simp only [StateSet.contains_insert] at *
  omega

/-- A state is exhausted if each state that it can pass to is covered, and each that it can go on in
is kept. -/
theorem exhausted_of_step {s : Nat} {step : Step} (h : p.steps[s]? = some step)
    (haccept : step ≠ .accept) (hpass : ∀ next, step.Passes c next → p.Covered front next)
    (htake : ∀ set next x rest, step = .take set next → c.rest = x :: rest → set.contains x →
      ∃ u ∈ front.onward, u.state = next) :
  p.Exhausted c front s
  := by
  intro step' h'
  rw [h] at h'
  cases h'
  exact ⟨haccept, hpass, htake⟩

/-- Every state reached between two fronts is exhausted, unless a reading is complete. -/
def Settled (p : Pattern) (c : Cursor) (front front' : Front) : Prop :=
  front'.complete.isSome ∨
    ∀ s, front'.seen.contains s → front.seen.contains s ∨ p.Exhausted c front' s

theorem Settled.refl (p : Pattern) (c : Cursor) (front : Front) :
  p.Settled c front front
  := .inr fun _ h => .inl h

/-- What is settled in two steps is settled. -/
theorem Settled.trans {front₁ : Front} (h₁ : p.Settled c front front₁)
    (hg : p.Grows c t front₁ front') (h₂ : p.Settled c front₁ front') :
  p.Settled c front front'
  := by
  rcases h₂ with h₂ | h₂
  · exact .inl h₂
  · rcases h₁ with h₁ | h₁
    · left
      rcases hg.complete with hc | ⟨-, r, hr, -⟩
      · rwa [hc]
      · rw [hr]
        rfl
    · right
      intro s hs
      rcases h₂ s hs with hs | hs
      · exact (h₁ s hs).imp_right fun he => he.mono hg
      · exact .inr hs

/-- A thread has been followed when its state is exhausted, and with it all states reached since. -/
theorem settled_of_insert
    (hg : p.Grows c t { front with seen := front.seen.insert t.state } front')
    (hs : p.Settled c { front with seen := front.seen.insert t.state } front')
    (he : front'.complete.isSome ∨ p.Exhausted c front' t.state) :
  p.Settled c front front' ∧ (front'.complete.isSome ∨ p.Covered front' t.state)
  := by
  constructor
  · rcases hs with hs | hs
    · exact .inl hs
    · rcases he with he | he
      · exact .inl he
      · right
        intro s h
        rcases hs s h with h | h
        · rw [StateSet.contains_insert, Bool.or_eq_true, beq_iff_eq] at h
          rcases h with h | rfl
          · exact .inl h
          · exact .inr he
        · exact .inr h
  · right
    right
    apply hg.seen
    simp

/-- A thread has been followed as well when it goes on nowhere from its state. -/
theorem settled_of_stuck
    (he : p.Exhausted c { front with seen := front.seen.insert t.state } t.state) :
  let front' := { front with seen := front.seen.insert t.state }
  p.Settled c front front' ∧ (front'.complete.isSome ∨ p.Covered front' t.state)
  := settled_of_insert (Grows.refl p c t _) (Settled.refl p c _) (.inr he)

/-- When a thread has been followed, its state has been reached and all states that were reached on
the way are exhausted, unless a reading is complete. -/
theorem settled_follow (budget : Nat) (h : p.unseen front ≤ budget) :
  p.Settled c front (p.follow c budget t front) ∧
    ((p.follow c budget t front).complete.isSome ∨
      p.Covered (p.follow c budget t front) t.state)
  := by
  induction budget generalizing t front with
  | zero => exact ⟨Settled.refl p c front, .inr (covered_of_unseen (Nat.le_zero.mp h) _)⟩
  | succ budget ih =>
    rw [follow]
    split
    next hdropped =>
      exact ⟨Settled.refl p c front, (Bool.or_eq_true_iff.mp hdropped).imp_right .inr⟩
    next hdropped =>
      rw [Bool.not_eq_true, Bool.or_eq_false_iff] at hdropped
      have hbudget {step : Step} (hstep : p.steps[t.state]? = some step) :
          p.unseen { front with seen := front.seen.insert t.state } ≤ budget := by
        have := unseen_insert_lt (Array.getElem?_eq_some_iff.mp hstep).1 hdropped.2
        omega
      dsimp only
      split
      next hstep =>
        apply settled_of_stuck
        intro step h'
        rw [hstep] at h'
        cases h'
      next hstep => exact ⟨.inl rfl, .inl rfl⟩
      next s next hstep =>
        split
        next hrest =>
          apply settled_of_stuck
          apply exhausted_of_step hstep nofun nofun
          intro _ _ x rest _ hrest'
          rw [hrest] at hrest'
          cases hrest'
        next x rest hrest =>
          split
          next hx =>
            apply settled_of_insert (.take hstep hrest hx) (.inr fun _ h => .inl h)
            right
            apply exhausted_of_step hstep nofun nofun
            intro _ _ _ _ hset _ _
            cases hset
            exact ⟨_, List.mem_cons_self, rfl⟩
          next hx =>
            apply settled_of_stuck
            apply exhausted_of_step hstep nofun nofun
            intro _ _ y rest' hset hrest' hy
            cases hset
            rw [hrest] at hrest'
            cases hrest'
            apply absurd hy hx
      next a next hstep =>
        split
        next ha =>
          obtain ⟨hs, hc⟩ := ih (t := { t with state := next }) (hbudget hstep)
          apply settled_of_insert (grows_follow_of_pass hstep (.check ha) _ _ _) hs
          apply hc.imp_right
          intro hn
          apply exhausted_of_step hstep nofun _ nofun
          rintro _ ⟨⟩
          apply hn
        next ha =>
          apply settled_of_stuck
          apply exhausted_of_step hstep nofun _ nofun
          rintro _ ⟨h⟩
          apply absurd h ha
      next m next hstep =>
        obtain ⟨hs, hc⟩ := ih (t := ⟨next, t.start, (m, c.offset) :: t.marks⟩) (hbudget hstep)
        apply settled_of_insert (grows_follow_of_pass hstep .mark _ _ _) hs
        apply hc.imp_right
        intro hn
        apply exhausted_of_step hstep nofun _ nofun
        rintro _ ⟨⟩
        apply hn
      next first second hstep =>
        have hg₁ := grows_follow_of_pass (c := c) hstep .first budget t.marks
          { front with seen := front.seen.insert t.state }
        have hg₂ := grows_follow_of_pass (c := c) hstep .second budget t.marks
          (p.follow c budget { t with state := first }
            { front with seen := front.seen.insert t.state })
        obtain ⟨hs₁, hc₁⟩ := ih (t := { t with state := first }) (hbudget hstep)
        obtain ⟨hs₂, hc₂⟩ := ih (t := { t with state := second })
          ((unseen_mono hg₁).trans (hbudget hstep))
        apply settled_of_insert (hg₁.trans hg₂) (hs₁.trans hg₂ hs₂)
        rcases hc₁ with hc₁ | hc₁
        · left
          rwa [follow_of_complete budget hc₁]
        · apply hc₂.imp_right
          intro hn
          apply exhausted_of_step hstep nofun _ nofun
          rintro _ (_ | _)
          · apply hc₁.mono hg₂
          · apply hn

end Highlight.Pattern
