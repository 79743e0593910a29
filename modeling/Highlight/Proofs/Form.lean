import Highlight.Proofs.Path

/-!
# What forms read

A form reads the piece of a line between two places and passes marks on its way.  The states of a
form lead from their start to a given state on all the ways that the form reads, and on no
others; so the pattern of a form has a path to acceptance exactly where the form reads.
-/

namespace Highlight.Pattern

/-- A relation between two places, with the marks passed between them. -/
abbrev Way := Cursor → Marks → Cursor → Prop

namespace Way

/-- No way to go. -/
def stay : Way := fun c ms d =>
  ms = [] ∧ d = c

/-- Over one character of the set. -/
def take (s : CharSet) : Way := fun c ms d =>
  ms = [] ∧ ∃ x rest, c.rest = x :: rest ∧ s.contains x ∧ d = c.past x rest

/-- No way to go, where the assertion holds. -/
def check (a : Assertion) : Way := fun c ms d =>
  ms = [] ∧ a.holds c ∧ d = c

/-- No way to go, with a mark passed. -/
def mark (m : Mark) : Way := fun c ms d =>
  ms = [(m, c.offset)] ∧ d = c

/-- One way and then another one. -/
def andThen (R S : Way) : Way := fun c ms d =>
  ∃ ms₁ e ms₂, R c ms₁ e ∧ S e ms₂ d ∧ ms = ms₁ ++ ms₂

/-- One way or another one. -/
def orElse (R S : Way) : Way := fun c ms d =>
  R c ms d ∨ S c ms d

/-- The same way, `n` times. -/
def iterate (R : Way) : Nat → Way
  | 0 => stay
  | n + 1 => R.andThen (iterate R n)

/-- The same way, at most `n` times. -/
def upTo (R : Way) (n : Nat) : Way := fun c ms d =>
  ∃ k ≤ n, R.iterate k c ms d

/-- The same way, any number of times. -/
def star (R : Way) : Way := fun c ms d =>
  ∃ n, R.iterate n c ms d

/-- The same way, from `least` to `most` times, and `least` times if `most` is less. -/
def times (R : Way) (least : Nat) (most : Option Nat) : Way := fun c ms d =>
  ∃ n, least ≤ n ∧ (∀ m, most = some m → n ≤ max least m) ∧ R.iterate n c ms d

theorem ext {R S : Way} (h : ∀ c ms d, R c ms d ↔ S c ms d) :
  R = S
  := by
  funext c ms d
  apply propext (h c ms d)

/-- What leads further from the same places does so behind another way. -/
theorem andThen.mono {R S S' : Way} (h : ∀ c ms d, S c ms d → S' c ms d) {c d : Cursor}
    {ms : Marks} (hRS : R.andThen S c ms d) :
  R.andThen S' c ms d
  := by
  obtain ⟨ms₁, e, ms₂, hR, hS, rfl⟩ := hRS
  exact ⟨ms₁, e, ms₂, hR, h _ _ _ hS, rfl⟩

theorem stay_andThen (R : Way) :
  stay.andThen R = R
  := by
  apply ext
  intro c ms d
  constructor
  · rintro ⟨_, _, ms₂, ⟨rfl, rfl⟩, h, rfl⟩
    apply h
  · intro h
    exact ⟨[], c, ms, ⟨rfl, rfl⟩, h, rfl⟩

theorem andThen_stay (R : Way) :
  R.andThen stay = R
  := by
  apply ext
  intro c ms d
  constructor
  · rintro ⟨ms₁, _, _, h, ⟨rfl, rfl⟩, rfl⟩
    rwa [List.append_nil]
  · intro h
    exact ⟨ms, d, [], h, ⟨rfl, rfl⟩, (List.append_nil ms).symm⟩

theorem andThen_assoc (R S T : Way) :
  (R.andThen S).andThen T = R.andThen (S.andThen T)
  := by
  apply ext
  intro c ms d
  constructor
  · rintro ⟨_, e, ms₃, ⟨ms₁, e', ms₂, hR, hS, rfl⟩, hT, rfl⟩
    exact ⟨ms₁, e', ms₂ ++ ms₃, hR, ⟨ms₂, e, ms₃, hS, hT, rfl⟩, List.append_assoc _ _ _⟩
  · rintro ⟨ms₁, e, _, hR, ⟨ms₂, e', ms₃, hS, hT, rfl⟩, rfl⟩
    exact ⟨ms₁ ++ ms₂, e', ms₃, ⟨ms₁, e, ms₂, hR, hS, rfl⟩, hT, (List.append_assoc _ _ _).symm⟩

/-- Repeating a way `n + m` times is repeating it `n` times and then `m` times. -/
theorem iterate_add (R : Way) (n m : Nat) :
  R.iterate (n + m) = (R.iterate n).andThen (R.iterate m)
  := by
  induction n with
  | zero => rw [Nat.zero_add, iterate, stay_andThen]
  | succ n ih => rw [Nat.succ_add, iterate, ih, ← andThen_assoc, ← iterate]

theorem iterate_succ (R : Way) (n : Nat) :
  R.iterate (n + 1) = (R.iterate n).andThen R
  := by rw [iterate_add, iterate, iterate, andThen_stay]

theorem upTo_zero (R : Way) :
  R.upTo 0 = stay
  := by
  apply ext
  intro c ms d
  constructor
  · rintro ⟨k, hk, h⟩
    rwa [Nat.le_zero.mp hk] at h
  · intro h
    exact ⟨0, Nat.le_refl 0, h⟩

/-- A way is taken up to `n + 1` times by taking it once and then up to `n` times, or by staying. -/
theorem upTo_succ (R : Way) (n : Nat) :
  R.upTo (n + 1) = (R.andThen (R.upTo n)).orElse stay
  := by
  apply ext
  intro c ms d
  constructor
  · rintro ⟨k, hk, h⟩
    cases k with
    | zero => exact .inr h
    | succ k =>
      left
      apply andThen.mono (fun c ms d h => ⟨k, Nat.le_of_succ_le_succ hk, h⟩) h
  · rintro (⟨ms₁, e, ms₂, hR, ⟨k, hk, h⟩, rfl⟩ | h)
    · exact ⟨k + 1, Nat.succ_le_succ hk, ms₁, e, ms₂, hR, h, rfl⟩
    · exact ⟨0, Nat.zero_le _, h⟩

/-- A way is taken any number of times by taking it once and then any number of times, or by
staying. -/
theorem star_eq (R : Way) :
  R.star = (R.andThen R.star).orElse stay
  := by
  apply ext
  intro c ms d
  constructor
  · rintro ⟨n, h⟩
    cases n with
    | zero => exact .inr h
    | succ n =>
      left
      apply andThen.mono (fun c ms d h => ⟨n, h⟩) h
  · rintro (⟨ms₁, e, ms₂, hR, ⟨n, h⟩, rfl⟩ | h)
    · exact ⟨n + 1, ms₁, e, ms₂, hR, h, rfl⟩
    · exact ⟨0, h⟩

/-- A repetition without a bound repeats the way as often as it must, and then any number of
times. -/
theorem times_none (R : Way) (least : Nat) :
  R.times least none = (R.iterate least).andThen R.star
  := by
  apply ext
  intro c ms d
  constructor
  · rintro ⟨n, hn, -, h⟩
    rw [← Nat.add_sub_cancel' hn, iterate_add] at h
    apply andThen.mono (fun c ms d h => ⟨_, h⟩) h
  · rintro ⟨ms₁, e, ms₂, hR, ⟨n, h⟩, rfl⟩
    refine ⟨least + n, Nat.le_add_right _ _, nofun, ?_⟩
    rw [iterate_add]
    exact ⟨ms₁, e, ms₂, hR, h, rfl⟩

/-- A repetition with a bound repeats the way as often as it must, and then as often as it may. -/
theorem times_some (R : Way) (least most : Nat) :
  R.times least (some most) = (R.iterate least).andThen (R.upTo (most - least))
  := by
  apply ext
  intro c ms d
  constructor
  · rintro ⟨n, hn, hmost, h⟩
    have := hmost most rfl
    rw [← Nat.add_sub_cancel' hn, iterate_add] at h
    apply andThen.mono (fun c ms d h => ⟨n - least, by omega, h⟩) h
  · rintro ⟨ms₁, e, ms₂, hR, ⟨n, hn, h⟩, rfl⟩
    refine ⟨least + n, Nat.le_add_right _ _, ?_, ?_⟩
    · rintro _ ⟨⟩
      omega
    · rw [iterate_add]
      exact ⟨ms₁, e, ms₂, hR, h, rfl⟩

end Way

/-- The form reads from one place to another and passes the marks. -/
def Form.Reads : Form → Way
  | empty => .stay
  | set s => .take s
  | assertion a => .check a
  | group index f => (Way.mark (.opening index)).andThen (f.Reads.andThen (.mark (.closing index)))
  | seq f g => f.Reads.andThen g.Reads
  | alt f g => f.Reads.orElse g.Reads
  | times f least most _ => f.Reads.times least most

/-! ### Ways between states -/

/-- The array starts with the given steps. -/
def StartsWith (all steps : Array Step) : Prop :=
  ∀ (i : Nat) (step : Step), steps[i]? = some step → all[i]? = some step

theorem StartsWith.of_push {all steps : Array Step} {step : Step}
    (h : StartsWith all (steps.push step)) :
  StartsWith all steps ∧ all[steps.size]? = some step
  := by
  constructor
  · intro i step' hi
    apply h
    rw [Array.getElem?_push, if_neg, hi]
    apply Nat.ne_of_lt (Array.getElem?_eq_some_iff.mp hi).1
  · apply h
    rw [Array.getElem?_push, if_pos rfl]

/-- Paths of at most `n` steps from a state. -/
def within (all : Array Step) (state n : Nat) : Way := fun c ms d =>
  ∃ m ≤ n, Path all m state c ms d

/-- The paths from the state `start` are those from the state `next`, each with a way of `R` in
front of it and no shorter than without. -/
structure Leads (all : Array Step) (R : Way) (start next : Nat) : Prop where
  through : ∀ n c ms d, within all start n c ms d → R.andThen (within all next n) c ms d
  back : ∀ n c ms d, R.andThen (within all next n) c ms d → ∃ m, within all start m c ms d

/-- What is read within `n` steps is read within more. -/
theorem within.mono {all : Array Step} {state n m : Nat} (h : n ≤ m) (c : Cursor) (ms : Marks)
    (d : Cursor) (hw : within all state n c ms d) :
  within all state m c ms d
  := by
  obtain ⟨k, hk, path⟩ := hw
  exact ⟨k, Nat.le_trans hk h, path⟩

namespace Leads

variable {all : Array Step} {R S : Way} {start middle next : Nat}

theorem stay (all : Array Step) (state : Nat) :
  Leads all .stay state state
  where
  through n c ms d h := by
    rw [Way.stay_andThen]
    apply h
  back n c ms d h := by
    rw [Way.stay_andThen] at h
    exact ⟨n, h⟩

/-- Ways between states can be put together. -/
theorem trans (hR : Leads all R start middle) (hS : Leads all S middle next) :
  Leads all (R.andThen S) start next
  where
  through n c ms d h := by
    rw [Way.andThen_assoc]
    apply Way.andThen.mono (hS.through n) (hR.through n c ms d h)
  back n c ms d h := by
    rw [Way.andThen_assoc] at h
    obtain ⟨ms₁, e, ms₂, h₁, h₂, rfl⟩ := h
    obtain ⟨m, hm⟩ := hS.back n e ms₂ d h₂
    apply hR.back m c _ d ⟨ms₁, e, ms₂, h₁, hm, rfl⟩

/-- From a state that takes a character, the way over this character leads to the next state. -/
theorem take {s : CharSet} (h : all[start]? = some (.take s next)) :
  Leads all (.take s) start next
  where
  through n c ms d := by
    rintro ⟨m, hm, path⟩
    cases path with
    | accept h' => simp [h] at h'
    | take h' hrest hx path =>
      rw [h] at h'
      cases h'
      exact ⟨[], _, ms, ⟨rfl, _, _, hrest, hx, rfl⟩, ⟨_, by omega, path⟩, rfl⟩
    | pass h' hstep =>
      rw [h] at h'
      cases h'
      cases hstep
  back n c ms d := by
    rintro ⟨_, _, ms₂, ⟨rfl, x, rest, hrest, hx, rfl⟩, ⟨m, hm, path⟩, rfl⟩
    exact ⟨m + 1, m + 1, Nat.le_refl _, .take h hrest hx path⟩

/-- From a state that checks an assertion, staying where it holds leads to the next state. -/
theorem check {a : Assertion} (h : all[start]? = some (.check a next)) :
  Leads all (.check a) start next
  where
  through n c ms d := by
    rintro ⟨m, hm, path⟩
    cases path with
    | accept h' => simp [h] at h'
    | take h' => simp [h] at h'
    | pass h' hstep path =>
      rw [h] at h'
      cases h'
      cases hstep with
      | check ha => exact ⟨[], c, _, ⟨rfl, ha, rfl⟩, ⟨_, by omega, path⟩, rfl⟩
  back n c ms d := by
    rintro ⟨_, _, ms₂, ⟨rfl, ha, rfl⟩, ⟨m, hm, path⟩, rfl⟩
    exact ⟨m + 1, m + 1, Nat.le_refl _, .pass h (.check ha) path⟩

/-- From a state that marks a place, the way that marks it leads to the next state. -/
theorem mark {m : Mark} (h : all[start]? = some (.mark m next)) :
  Leads all (.mark m) start next
  where
  through n c ms d := by
    rintro ⟨k, hk, path⟩
    cases path with
    | accept h' => simp [h] at h'
    | take h' => simp [h] at h'
    | pass h' hstep path =>
      rw [h] at h'
      cases h'
      cases hstep with
      | mark => exact ⟨_, c, _, ⟨rfl, rfl⟩, ⟨_, by omega, path⟩, rfl⟩
  back n c ms d := by
    rintro ⟨_, _, ms₂, ⟨rfl, rfl⟩, ⟨k, hk, path⟩, rfl⟩
    exact ⟨k + 1, k + 1, Nat.le_refl _, .pass h .mark path⟩

/-- Paths from a choice go on from one of the two states. -/
theorem within_fork {greedy : Bool} {inside past n : Nat} {c d : Cursor} {ms : Marks}
    (h : all[start]? = some (Form.fork greedy inside past)) (hw : within all start n c ms d) :
  ∃ k < n, within all inside k c ms d ∨ within all past k c ms d
  := by
  obtain ⟨m, hm, path⟩ := hw
  cases path with
  | accept h' => cases greedy <;> simp [h, Form.fork] at h'
  | take h' => cases greedy <;> simp [h, Form.fork] at h'
  | @pass k _ _ _ _ _ _ h' hstep path =>
    use k, by omega
    rw [h] at h'
    cases h'
    cases greedy with
    | false =>
      cases hstep with
      | first => exact .inr ⟨k, Nat.le_refl k, path⟩
      | second => exact .inl ⟨k, Nat.le_refl k, path⟩
    | true =>
      cases hstep with
      | first => exact .inl ⟨k, Nat.le_refl k, path⟩
      | second => exact .inr ⟨k, Nat.le_refl k, path⟩

/-- What is read from either state of a choice is read from the choice. -/
theorem within_of_fork {greedy : Bool} {inside past n : Nat} {c d : Cursor} {ms : Marks}
    (h : all[start]? = some (Form.fork greedy inside past))
    (hw : within all inside n c ms d ∨ within all past n c ms d) :
  within all start (n + 1) c ms d
  := by
  cases greedy with
  | false =>
    rcases hw with ⟨k, hk, path⟩ | ⟨k, hk, path⟩
    · exact ⟨k + 1, Nat.succ_le_succ hk, .pass h .second path⟩
    · exact ⟨k + 1, Nat.succ_le_succ hk, .pass h .first path⟩
  | true =>
    rcases hw with ⟨k, hk, path⟩ | ⟨k, hk, path⟩
    · exact ⟨k + 1, Nat.succ_le_succ hk, .pass h .first path⟩
    · exact ⟨k + 1, Nat.succ_le_succ hk, .pass h .second path⟩

/-- From a choice of two states, either way leads on. -/
theorem fork {greedy : Bool} {inside past : Nat}
    (h : all[start]? = some (Form.fork greedy inside past)) (hR : Leads all R inside next)
    (hS : Leads all S past next) :
  Leads all (R.orElse S) start next
  where
  through n c ms d hw := by
    obtain ⟨k, hk, hw | hw⟩ := within_fork h hw
    · obtain ⟨ms₁, e, ms₂, h₁, h₂, rfl⟩ := hR.through k c ms d hw
      exact ⟨ms₁, e, ms₂, .inl h₁, h₂.mono (Nat.le_of_lt hk), rfl⟩
    · obtain ⟨ms₁, e, ms₂, h₁, h₂, rfl⟩ := hS.through k c ms d hw
      exact ⟨ms₁, e, ms₂, .inr h₁, h₂.mono (Nat.le_of_lt hk), rfl⟩
  back n c ms d := by
    rintro ⟨ms₁, e, ms₂, h₁ | h₁, h₂, rfl⟩
    · obtain ⟨m, hm⟩ := hR.back n c _ d ⟨ms₁, e, ms₂, h₁, h₂, rfl⟩
      exact ⟨m + 1, within_of_fork h (.inl hm)⟩
    · obtain ⟨m, hm⟩ := hS.back n c _ d ⟨ms₁, e, ms₂, h₁, h₂, rfl⟩
      exact ⟨m + 1, within_of_fork h (.inr hm)⟩

/-- A choice to which the inside leads back repeats the inside. -/
theorem loop {greedy : Bool} {inside : Nat}
    (h : all[start]? = some (Form.fork greedy inside next)) (hR : Leads all R inside start) :
  Leads all R.star start next
  where
  through n := by
    -- Each time around the paths from the choice get shorter.
    induction n using Nat.strong_induction_on with
    | _ n ih =>
      intro c ms d hw
      rw [Way.star_eq]
      obtain ⟨k, hk, hw | hw⟩ := within_fork h hw
      · obtain ⟨ms₁, e, _, h₁, hloop, rfl⟩ := hR.through k c ms d hw
        obtain ⟨ms₂, e', ms₃, h₂, h₃, rfl⟩ := ih k hk e _ d hloop
        exact ⟨ms₁ ++ ms₂, e', ms₃, .inl ⟨ms₁, e, ms₂, h₁, h₂, rfl⟩,
          h₃.mono (Nat.le_of_lt hk), (List.append_assoc _ _ _).symm⟩
      · exact ⟨[], c, ms, .inr ⟨rfl, rfl⟩, hw.mono (Nat.le_of_lt hk), rfl⟩
  back n c ms d := by
    rintro ⟨ms₁, e, ms₂, ⟨k, h₁⟩, h₂, rfl⟩
    induction k generalizing c ms₁ with
    | zero =>
      obtain ⟨rfl, rfl⟩ := h₁
      exact ⟨n + 1, within_of_fork h (.inr h₂)⟩
    | succ k ih =>
      obtain ⟨ms₁, e', ms₁', hR', h₁, rfl⟩ := h₁
      obtain ⟨m, hm⟩ := ih e' ms₁' h₁
      obtain ⟨l, hl⟩ := hR.back m c _ d ⟨ms₁, e', _, hR', hm, rfl⟩
      use l + 1
      rw [List.append_assoc]
      apply within_of_fork h (.inl hl)

end Leads

/-! ### Layouts -/

/-- The states that are laid out for a piece lead on the given way to the state behind it, in any
array that goes on with them. -/
def Lays (all : Array Step) (piece : Nat → Array Step → Nat × Array Step) (R : Way) : Prop :=
  ∀ next steps, StartsWith all (piece next steps).2 →
    StartsWith all steps ∧ Leads all R (piece next steps).1 next

variable {all : Array Step} {piece : Nat → Array Step → Nat × Array Step} {R : Way}

/-- Copies of a layout lay out the repetition of its way. -/
theorem Lays.copies (h : Lays all piece R) (n : Nat) :
  Lays all (Form.copies piece n) (R.iterate n)
  := by
  induction n with
  | zero => exact fun next steps hall => ⟨hall, .stay all next⟩
  | succ n ih =>
    intro next steps hall
    obtain ⟨hpiece, hcopies⟩ := ih _ _ hall
    obtain ⟨hsteps, hlead⟩ := h _ _ hpiece
    rw [Way.iterate_succ]
    exact ⟨hsteps, hcopies.trans hlead⟩

/-- Laying out what may be left out only puts states behind those that are there. -/
theorem Lays.startsWith_options (h : Lays all piece R) (greedy : Bool) (past n next : Nat)
    (steps : Array Step) (hall : StartsWith all (Form.options piece greedy past n next steps).2) :
  StartsWith all steps
  := by
  induction n generalizing next steps with
  | zero => apply hall
  | succ n ih => exact (h _ _ (ih _ _ hall).of_push.1).1

/-- Each option adds one more time to those that are possible from the state it leads to. -/
theorem Lays.leads_options (h : Lays all piece R) (greedy : Bool) (past n : Nat) {next k : Nat}
    {steps : Array Step} (hnext : Leads all (R.upTo k) next past)
    (hall : StartsWith all (Form.options piece greedy past n next steps).2) :
  Leads all (R.upTo (k + n)) (Form.options piece greedy past n next steps).1 past
  := by
  induction n generalizing next k steps with
  | zero => apply hnext
  | succ n ih =>
    obtain ⟨hpiece, hfork⟩ := (h.startsWith_options greedy past n _ _ hall).of_push
    obtain ⟨-, hlead⟩ := h _ _ hpiece
    have hnext' := Leads.fork hfork (hlead.trans hnext) (.stay all past)
    rw [← Way.upTo_succ] at hnext'
    rw [← Nat.succ_add_eq_add_succ]
    apply ih hnext' hall

theorem Form.layout_group (index : Nat) (f : Form) (next : Nat) (steps : Array Step) :
  (group index f).layout next steps
    = ((f.layout steps.size (steps.push (.mark (.closing index) next))).2.size,
      (f.layout steps.size (steps.push (.mark (.closing index) next))).2.push
        (.mark (.opening index)
          (f.layout steps.size (steps.push (.mark (.closing index) next))).1))
  := rfl

theorem Form.layout_alt (f g : Form) (next : Nat) (steps : Array Step) :
  (alt f g).layout next steps
    = ((g.layout next (f.layout next steps).2).2.size,
      (g.layout next (f.layout next steps).2).2.push
        (.branch (f.layout next steps).1 (g.layout next (f.layout next steps).2).1))
  := rfl

/-- The states of a loop: the body leads back to the choice, and the choice around the loop. -/
theorem leads_loop {f : Form} (h : Lays all f.layout f.Reads) {greedy : Bool} {next : Nat}
    {steps : Array Step}
    (hall : StartsWith all ((f.layout (steps.size + f.size) steps).2.push
      (Form.fork greedy (f.layout (steps.size + f.size) steps).1 next))) :
  StartsWith all steps ∧
    Leads all f.Reads (f.layout (steps.size + f.size) steps).1 (steps.size + f.size) ∧
    Leads all f.Reads.star (steps.size + f.size) next
  := by
  obtain ⟨hbody, hfork⟩ := hall.of_push
  obtain ⟨hsteps, hlead⟩ := h _ _ hbody
  rw [Form.size_layout] at hfork
  exact ⟨hsteps, hlead, .loop hfork hlead⟩

/-- The states of a form lead on what the form reads. -/
theorem lays_layout (all : Array Step) (f : Form) :
  Lays all f.layout f.Reads
  := by
  induction f with
  | empty => exact fun next steps hall => ⟨hall, .stay all next⟩
  | set s =>
    intro next steps hall
    obtain ⟨hsteps, hstep⟩ := StartsWith.of_push hall
    exact ⟨hsteps, .take hstep⟩
  | assertion a =>
    intro next steps hall
    obtain ⟨hsteps, hstep⟩ := StartsWith.of_push hall
    exact ⟨hsteps, .check hstep⟩
  | group index f ih =>
    intro next steps hall
    rw [Form.layout_group] at hall ⊢
    obtain ⟨hinside, hopening⟩ := StartsWith.of_push hall
    obtain ⟨hclosing, hlead⟩ := ih _ _ hinside
    obtain ⟨hsteps, hclosing⟩ := hclosing.of_push
    exact ⟨hsteps, (Leads.mark hopening).trans (hlead.trans (.mark hclosing))⟩
  | seq f g ihf ihg =>
    intro next steps hall
    obtain ⟨hmiddle, hf⟩ := ihf _ _ hall
    obtain ⟨hsteps, hg⟩ := ihg _ _ hmiddle
    exact ⟨hsteps, hf.trans hg⟩
  | alt f g ihf ihg =>
    intro next steps hall
    rw [Form.layout_alt] at hall ⊢
    obtain ⟨hright, hbranch⟩ := StartsWith.of_push hall
    obtain ⟨hleft, hg⟩ := ihg _ _ hright
    obtain ⟨hsteps, hf⟩ := ihf _ _ hleft
    exact ⟨hsteps, .fork (show all[_]? = some (Form.fork true _ _) from hbranch) hf hg⟩
  | times f least most greedy ih =>
    cases most with
    | some most =>
      intro next steps hall
      obtain ⟨hoptions, hcopies⟩ := ih.copies least _ _ hall
      have hnext := Leads.stay all next
      rw [← Way.upTo_zero f.Reads] at hnext
      have hlead := ih.leads_options greedy next (most - least) hnext hoptions
      rw [Nat.zero_add] at hlead
      rw [Form.Reads, Way.times_some]
      exact ⟨ih.startsWith_options _ _ _ _ _ hoptions, hcopies.trans hlead⟩
    | none =>
      intro next steps hall
      rw [Form.Reads, Way.times_none]
      cases least with
      | zero =>
        rw [Way.iterate, Way.stay_andThen]
        rw [Form.layout] at hall ⊢
        dsimp only at hall ⊢
        split at hall
        next htext =>
          obtain ⟨hsteps, -, hloop⟩ := leads_loop ih hall
          rw [if_pos htext, Form.size_layout]
          exact ⟨hsteps, hloop⟩
        next htext =>
          obtain ⟨hall, hfork⟩ := StartsWith.of_push hall
          obtain ⟨hsteps, hbody, hloop⟩ := leads_loop ih hall
          rw [if_neg htext, Way.star_eq]
          exact ⟨hsteps, .fork hfork (hbody.trans hloop) (.stay all next)⟩
      | succ n =>
        obtain ⟨hall, hcopies⟩ := ih.copies n _ _ hall
        obtain ⟨hsteps, hbody, hloop⟩ := leads_loop ih hall
        rw [Way.iterate_succ, Way.andThen_assoc]
        exact ⟨hsteps, hcopies.trans (hbody.trans hloop)⟩

/-! ### Patterns -/

variable {p : Pattern} {n : Nat} {c d : Cursor} {ms : Marks}

/-- From the start of a pattern, the way of its form leads to the state that accepts. -/
theorem leads_start (p : Pattern) :
  p.steps[0]? = some .accept ∧ Leads p.steps p.form.Reads p.start 0
  := by
  have h := lays_layout p.steps p.form 0 #[.accept]
  rw [p.laidOut] at h
  obtain ⟨hsteps, hlead⟩ := h fun _ _ h => h
  exact ⟨hsteps 0 _ rfl, hlead⟩

/-- A path from the start of a pattern to acceptance goes along what the form reads. -/
theorem reads_of_path (h : Path p.steps n p.start c ms d) :
  p.form.Reads c ms d
  := by
  obtain ⟨haccept, hlead⟩ := leads_start p
  obtain ⟨ms₁, e, ms₂, hreads, ⟨m, -, path⟩, rfl⟩ := hlead.through n c ms d ⟨n, Nat.le_refl n, h⟩
  cases path with
  | accept => rwa [List.append_nil]
  | take h' => simp [haccept] at h'
  | pass h' hstep =>
    rw [haccept] at h'
    cases h'
    cases hstep

/-- What a form reads is read along a path of its states. -/
theorem path_of_reads (h : p.form.Reads c ms d) :
  ∃ n, Path p.steps n p.start c ms d
  := by
  obtain ⟨haccept, hlead⟩ := leads_start p
  obtain ⟨n, m, -, path⟩ :=
    hlead.back 0 c _ d ⟨ms, d, [], h, ⟨0, Nat.le_refl 0, .accept haccept⟩, rfl⟩
  rw [List.append_nil] at path
  exact ⟨m, path⟩

/-- A pattern is completed from a place exactly if its form is read there. -/
theorem completes_start_iff :
  Completes p.steps p.start c ↔ ∃ ms d, p.form.Reads c ms d
  := by
  constructor
  · rintro ⟨n, ms, d, path⟩
    exact ⟨ms, d, reads_of_path path⟩
  · rintro ⟨ms, d, h⟩
    obtain ⟨n, path⟩ := path_of_reads h
    exact ⟨n, ms, d, path⟩

end Highlight.Pattern
