import Highlight.Proofs.Path

/-!
# Searching for a reading

Of the threads that arrive at a place, the first one that can be completed decides where the
reading starts that `Pattern.run` comes to.  Hence there is a reading at a place exactly when there
is a path from it, and `Pattern.search` finds the first place where there is a reading.
-/

namespace Highlight.Pattern

/-- The first thread of a list that has the property has started at offset `n`. -/
inductive LedBy (P : Thread → Prop) (n : Nat) : List Thread → Prop where
  | here {t : Thread} {ts : List Thread} (h : P t) (hstart : t.start = n) : LedBy P n (t :: ts)
  | later {t : Thread} {ts : List Thread} (h : ¬P t) (hts : LedBy P n ts) : LedBy P n (t :: ts)

namespace LedBy

variable {P : Thread → Prop} {n : Nat} {ts us : List Thread}

theorem append_right (h : LedBy P n ts) (us : List Thread) :
  LedBy P n (ts ++ us)
  := by
  induction h with
  | here h hstart => exact .here h hstart
  | later h _ ih => exact .later h ih

/-- Threads in front that do not have the property do not change which is the first that has it. -/
theorem append_left (hts : ∀ t ∈ ts, ¬P t) (h : LedBy P n us) :
  LedBy P n (ts ++ us)
  := by
  induction ts with
  | nil => apply h
  | cons t ts ih =>
    rw [List.forall_mem_cons] at hts
    exact .later hts.1 (ih hts.2)

/-- If all threads start at the same place, so does the first with the property. -/
theorem of_exists (hex : ∃ t ∈ ts, P t) (hstart : ∀ t ∈ ts, t.start = n) :
  LedBy P n ts
  := by
  induction ts with
  | nil =>
    obtain ⟨t, ht, -⟩ := hex
    cases ht
  | cons t ts ih =>
    rw [List.forall_mem_cons] at hstart
    rcases Classical.em (P t) with h | h
    · exact .here h hstart.1
    · apply LedBy.later h
      apply ih _ hstart.2
      obtain ⟨u, hu, hp⟩ := hex
      rcases List.mem_cons.mp hu with rfl | hu
      · apply absurd hp h
      · exact ⟨u, hu, hp⟩

theorem congr {Q : Thread → Prop} (hPQ : ∀ t, P t ↔ Q t) (h : LedBy P n ts) :
  LedBy Q n ts
  := by
  rwa [funext fun t => propext (hPQ t)] at h

theorem exists_mem (h : LedBy P n ts) :
  ∃ t ∈ ts, P t
  := by
  induction h with
  | here h _ => exact ⟨_, List.mem_cons_self, h⟩
  | later _ _ ih =>
    obtain ⟨t, ht, hp⟩ := ih
    exact ⟨t, List.mem_cons_of_mem _ ht, hp⟩

end LedBy

variable {p : Pattern} {c : Cursor} {t : Thread} {ts : List Thread} {front front' : Front}
  {n : Nat}

/-! ### Fronts -/

/-- Nothing that has come to the front can be completed. -/
structure Dead (p : Pattern) (c : Cursor) (front : Front) : Prop where
  complete : front.complete = none
  seen : ∀ s, front.seen.contains s → ¬Completes p.steps s c
  onward : ∀ u ∈ front.onward, ¬p.GoesOn c u

/-- The first thread that can be completed has started at offset `n`: it goes on, or else it is
complete. -/
def Leading (p : Pattern) (c : Cursor) (n : Nat) (front : Front) : Prop :=
  LedBy (p.GoesOn c) n front.onward.reverse ∨
    (∀ u ∈ front.onward, ¬p.GoesOn c u) ∧ ∃ r, front.complete = some r ∧ r.start = n

theorem dead_empty (p : Pattern) (c : Cursor) :
  p.Dead c {}
  where
  complete := rfl
  seen s h := by
    rw [StateSet.contains_empty] at h
    cases h
  onward := nofun

/-- A thread that cannot be completed leaves nothing behind that can. -/
theorem Dead.grows (h : p.Dead c front) (hg : p.Grows c t front front')
    (ht : ¬Completes p.steps t.state c) :
  p.Dead c front'
  where
  complete := by
    rcases hg.complete with hc | ⟨hc, -⟩
    · rw [hc, h.complete]
    · apply absurd hc ht
  seen s hs hc := by
    rcases hg.newSeen s hs with hs | hs
    · apply h.seen s hs hc
    · apply ht (hs hc)
  onward u hu hgo := by
    obtain ⟨new, ho, hn⟩ := hg.onward
    rw [ho] at hu
    rcases List.mem_append.mp hu with hu | hu
    · apply ht ((hn u hu).2 hgo)
    · apply h.onward u hu hgo

/-- A path from a state that has been reached comes to a thread that goes on, or to an end. -/
theorem exists_goesOn_of_path {s : Nat} {ms : Marks} {d : Cursor}
    (he : ∀ s, front.seen.contains s → Completes p.steps s c → p.Exhausted c front s)
    (path : Path p.steps n s c ms d) (hs : front.seen.contains s) :
  ∃ u ∈ front.onward, p.GoesOn c u
  := by
  induction n generalizing s ms with
  | zero =>
    cases path with
    | accept h => apply absurd rfl (he s hs ⟨_, _, _, .accept h⟩ _ h).1
  | succ n ih =>
    have hex := he s hs ⟨_, _, _, path⟩
    cases path with
    | take h hrest hx path =>
      obtain ⟨u, hu, rfl⟩ := (hex _ h).2.2 _ _ _ _ rfl hrest hx
      exact ⟨u, hu, _, _, hrest, _, _, _, path⟩
    | pass h hstep path =>
      apply ih path
      apply ((hex _ h).2.1 _ hstep).resolve_left
      apply Nat.not_le.mpr (Completes.lt_size ⟨_, _, _, path⟩)

/-- A thread that can be completed is the first such thread of a front without others. -/
theorem Dead.leading (h : p.Dead c front) (ht : Completes p.steps t.state c) :
  p.Leading c t.start (p.follow c p.steps.size t front)
  := by
  have hg := grows_follow p c p.steps.size t front
  obtain ⟨hs, hc⟩ := settled_follow (c := c) (t := t) _ (unseen_le_size p front)
  obtain ⟨new, ho, hn⟩ := hg.onward
  rcases Classical.em (∃ u ∈ new, p.GoesOn c u) with hnew | hnew
  · left
    rw [ho, List.reverse_append]
    apply LedBy.append_left
    · simpa using h.onward
    · apply LedBy.of_exists
      · simpa using hnew
      · intro u hu
        exact (hn u (List.mem_reverse.mp hu)).1
  · have honward : ∀ u ∈ (p.follow c p.steps.size t front).onward, ¬p.GoesOn c u := by
      intro u hu hgo
      rw [ho] at hu
      rcases List.mem_append.mp hu with hu | hu
      · apply hnew ⟨u, hu, hgo⟩
      · apply h.onward u hu hgo
    right
    use honward
    rcases hg.complete with hcomplete | ⟨-, hr⟩
    · -- Nothing goes on and nothing is complete, so the state of the thread leads nowhere.
      exfalso
      rw [h.complete] at hcomplete
      rw [Settled, hcomplete] at hs
      rw [hcomplete] at hc
      obtain ⟨n, ms, d, path⟩ := ht
      obtain ⟨u, hu, hgo⟩ := exists_goesOn_of_path
        (fun s hseen hs' => ((hs.resolve_left nofun) s hseen).resolve_left
          fun hold => h.seen s hold hs') path
        ((hc.resolve_left nofun).resolve_left
          (Nat.not_le.mpr (Completes.lt_size ⟨_, _, _, path⟩)))
      apply honward u hu hgo
    · apply hr

/-- A front that leads with a start keeps it when more threads are followed. -/
theorem Leading.follow (h : p.Leading c n front) (budget : Nat) (t : Thread) :
  p.Leading c n (p.follow c budget t front)
  := by
  rcases h with h | ⟨ho, r, hr, hn⟩
  · left
    obtain ⟨new, ho, -⟩ := (grows_follow p c budget t front).onward
    rw [ho, List.reverse_append]
    apply h.append_right _
  · rw [follow_of_complete budget (by rw [hr]; rfl)]
    exact .inr ⟨ho, r, hr, hn⟩

/-- A dead front stays so when threads that do not complete are followed. -/
theorem dead_foldl (h : p.Dead c front) (hts : ∀ t ∈ ts, ¬Completes p.steps t.state c) :
  p.Dead c (ts.foldl (fun front t => p.follow c p.steps.size t front) front)
  := by
  induction ts generalizing front with
  | nil => apply h
  | cons t ts ih =>
    rw [List.forall_mem_cons] at hts
    apply ih (h.grows (grows_follow p c _ t front) hts.1) hts.2

/-- A front that leads with a start keeps it over all threads that are followed. -/
theorem leading_foldl_of_leading (h : p.Leading c n front) (ts : List Thread) :
  p.Leading c n (ts.foldl (fun front t => p.follow c p.steps.size t front) front)
  := by
  induction ts generalizing front with
  | nil => apply h
  | cons t ts ih => apply ih (h.follow _ t)

/-- A dead front comes to lead with the start of the first thread that completes. -/
theorem leading_foldl (h : p.Dead c front)
    (hts : LedBy (fun t => Completes p.steps t.state c) n ts) :
  p.Leading c n (ts.foldl (fun front t => p.follow c p.steps.size t front) front)
  := by
  induction hts generalizing front with
  | here ht hstart =>
    subst hstart
    apply leading_foldl_of_leading (h.leading ht) _
  | later ht _ ih => apply ih (h.grows (grows_follow p c _ _ front) ht)

/-- The front of threads that do not complete is dead. -/
theorem dead_front (hts : ∀ t ∈ ts, ¬Completes p.steps t.state c) :
  p.Dead c (p.front c ts)
  := dead_foldl (dead_empty p c) hts

/-- The front of threads leads with the start of the first that completes. -/
theorem leading_front (hts : LedBy (fun t => Completes p.steps t.state c) n ts) :
  p.Leading c n (p.front c ts)
  := leading_foldl (dead_empty p c) hts

/-! ### Runs -/

/-- A thread goes on behind a character exactly if its state completes there. -/
theorem goesOn_iff {before : Option Char} {offset : Nat} {x : Char} {rest : List Char} :
  p.GoesOn ⟨before, offset, x :: rest⟩ t
    ↔ Completes p.steps t.state ⟨some x, offset + x.utf8Size, rest⟩
  := by
  constructor
  · rintro ⟨y, rest', hrest, h⟩
    cases hrest
    apply h
  · intro h
    exact ⟨x, rest, rfl, h⟩

theorem not_goesOn_nil {before : Option Char} {offset : Nat} :
  ¬p.GoesOn ⟨before, offset, []⟩ t
  := by
  rintro ⟨x, rest, hrest, -⟩
  cases hrest

theorem run_nil (p : Pattern) (best : Option Reading) (before : Option Char) (offset : Nat)
    (rest : List Char) :
  p.run [] best before offset rest = best
  := by
  cases rest with
  | nil => rfl
  | cons x rest => rfl

theorem run_cons (p : Pattern) (ts : List Thread) (best : Option Reading) (before : Option Char)
    (offset : Nat) (x : Char) (rest : List Char) :
  p.run ts best before offset (x :: rest)
    = p.run (p.front ⟨before, offset, x :: rest⟩ ts).onward.reverse
        ((p.front ⟨before, offset, x :: rest⟩ ts).complete.or best) (some x)
        (offset + x.utf8Size) rest
  := by
  rw [run]
  split
  next h => rw [h, List.reverse_nil, run_nil]
  next => rfl

/-- Threads that cannot be completed change nothing. -/
theorem run_dead {best : Option Reading} {before : Option Char} {offset : Nat} {rest : List Char}
    (h : ∀ t ∈ ts, ¬Completes p.steps t.state ⟨before, offset, rest⟩) :
  p.run ts best before offset rest = best
  := by
  induction rest generalizing ts best before offset with
  | nil => rw [run, (dead_front h).complete, Option.none_or]
  | cons x rest ih =>
    rw [run_cons, (dead_front h).complete, Option.none_or]
    apply ih
    intro t ht hc
    exact (dead_front h).onward t (List.mem_reverse.mp ht) (goesOn_iff.mpr hc)

/-- The first thread that can be completed decides where the reading starts. -/
theorem run_led {best : Option Reading} {before : Option Char} {offset : Nat} {rest : List Char}
    (h : LedBy (fun t => Completes p.steps t.state ⟨before, offset, rest⟩) n ts) :
  ∃ r, p.run ts best before offset rest = some r ∧ r.start = n
  := by
  induction rest generalizing ts best before offset with
  | nil =>
    rcases leading_front h with hled | ⟨-, r, hr, hn⟩
    · obtain ⟨t, -, hgo⟩ := hled.exists_mem
      apply absurd hgo not_goesOn_nil
    · exact ⟨r, by rw [run, hr, Option.some_or], hn⟩
  | cons x rest ih =>
    rw [run_cons]
    rcases leading_front h with hled | ⟨ho, r, hr, hn⟩
    · apply ih (hled.congr fun _ => goesOn_iff)
    · use r
      rw [hr, Option.some_or]
      refine ⟨run_dead ?_, hn⟩
      intro t ht hc
      apply ho t (List.mem_reverse.mp ht) (goesOn_iff.mpr hc)

/-- A search reads from the start of the first thread that completes, the new one included. -/
theorem runFrom_led {before : Option Char} {offset : Nat} {rest : List Char}
    (h : LedBy (fun t => Completes p.steps t.state ⟨before, offset, rest⟩) n
      (ts ++ [p.entry offset])) :
  ∃ r, p.runFrom ts before offset rest = some r ∧ r.start = n
  := by
  induction rest generalizing ts before offset with
  | nil =>
    rcases leading_front h with hled | ⟨-, r, hr, hn⟩
    · obtain ⟨t, -, hgo⟩ := hled.exists_mem
      apply absurd hgo not_goesOn_nil
    · exact ⟨r, hr, hn⟩
  | cons x rest ih =>
    rw [runFrom]
    rcases leading_front h with hled | ⟨ho, r, hr, hn⟩
    · replace hled := hled.congr fun _ => goesOn_iff
      split
      next => apply ih (hled.append_right _)
      next => apply run_led hled
    · use r
      rw [hr]
      refine ⟨run_dead ?_, hn⟩
      intro t ht hc
      apply ho t (List.mem_reverse.mp ht) (goesOn_iff.mpr hc)

theorem forall_mem_append_entry {P : Thread → Prop} (offset : Nat) (h : ∀ t ∈ ts, P t)
    (hentry : P (p.entry offset)) :
  ∀ t ∈ ts ++ [p.entry offset], P t
  := by
  intro t ht
  rcases List.mem_append.mp ht with ht | ht
  · apply h t ht
  · rw [List.mem_singleton.mp ht]
    apply hentry

/-- When none of the threads that have started before can be completed, the reading starts at the
first place from which there is a path. -/
theorem runFrom_dead {before : Option Char} {offset : Nat} {rest : List Char}
    (h : ∀ t ∈ ts, ¬Completes p.steps t.state ⟨before, offset, rest⟩) :
  (∃ d r, Cursor.IsFirst (Completes p.steps p.start) ⟨before, offset, rest⟩ d ∧
      p.runFrom ts before offset rest = some r ∧ r.start = d.offset) ∨
    (∀ d, ⟨before, offset, rest⟩ ≤ d → ¬Completes p.steps p.start d) ∧
      p.runFrom ts before offset rest = none
  := by
  induction rest generalizing ts before offset with
  | nil =>
    rcases Classical.em (Completes p.steps p.start ⟨before, offset, []⟩) with hc | hc
    · left
      obtain ⟨r, hr⟩ := runFrom_led (.append_left h (.here (t := p.entry offset) hc rfl))
      exact ⟨_, r, .self hc, hr⟩
    · right
      constructor
      · exact Cursor.forall_le_of_nil rfl hc
      · rw [runFrom, (dead_front (forall_mem_append_entry offset h hc)).complete]
  | cons x rest ih =>
    rcases Classical.em (Completes p.steps p.start ⟨before, offset, x :: rest⟩) with hc | hc
    · left
      obtain ⟨r, hr⟩ := runFrom_led (.append_left h (.here (t := p.entry offset) hc rfl))
      exact ⟨_, r, .self hc, hr⟩
    · have hdead := dead_front (forall_mem_append_entry offset h hc)
      rw [runFrom, hdead.complete]
      have honward : ∀ t ∈ (p.front ⟨before, offset, x :: rest⟩
          (ts ++ [p.entry offset])).onward.reverse,
          ¬Completes p.steps t.state ⟨some x, offset + x.utf8Size, rest⟩ := by
        intro t ht hgo
        apply hdead.onward t (List.mem_reverse.mp ht) (goesOn_iff.mpr hgo)
      rcases ih honward with ⟨d, r, hd, hr⟩ | ⟨hnone, hr⟩
      · left
        exact ⟨d, r, hd.of_past rfl hc, hr⟩
      · right
        exact ⟨Cursor.forall_le_of_past rfl hc hnone, hr⟩

/-! ### What a reading has read -/

/-- Each path from where the thread stands continues one from the start of the pattern at `c₀`, on
which the marks of the thread were passed. -/
structure Traces (p : Pattern) (c₀ c : Cursor) (t : Thread) : Prop where
  start : t.start = c₀.offset
  path : ∀ n ms d, Path p.steps n t.state c ms d →
    ∃ m, Path p.steps m p.start c₀ (t.marks.reverse ++ ms) d

/-- The reading follows a path from the start of the pattern at `c₀`. -/
structure Answers (p : Pattern) (c₀ : Cursor) (r : Reading) : Prop where
  start : r.start = c₀.offset
  path : ∃ n d, Path p.steps n p.start c₀ r.marks.reverse d ∧ r.stop = d.offset

/-- The threads of the front that go on, and its reading, follow paths from the start of the pattern
at `c₀`. -/
structure Sound (p : Pattern) (c₀ c : Cursor) (front : Front) : Prop where
  onward : ∀ u ∈ front.onward, ∃ x rest, c.rest = x :: rest ∧ p.Traces c₀ (c.past x rest) u
  complete : ∀ r, front.complete = some r → p.Answers c₀ r

variable {c₀ : Cursor}

/-- A new thread has traced nothing. -/
theorem traces_entry (p : Pattern) (c : Cursor) :
  p.Traces c c (p.entry c.offset)
  where
  start := rfl
  path n _ _ path := ⟨n, path⟩

/-- A thread traces what it takes. -/
theorem Traces.take {s : CharSet} {next : Nat} {x : Char} {rest : List Char}
    (h : p.Traces c₀ c t) (hstep : p.steps[t.state]? = some (.take s next))
    (hrest : c.rest = x :: rest) (hx : s.contains x) :
  p.Traces c₀ (c.past x rest) { t with state := next }
  where
  start := h.start
  path _ _ _ path := h.path _ _ _ (.take hstep hrest hx path)

/-- A thread traces the marks that it passes. -/
theorem Traces.pass {step : Step} {next : Nat} (h : p.Traces c₀ c t)
    (hstep : p.steps[t.state]? = some step) (hpass : step.Passes c next) :
  p.Traces c₀ c ⟨next, t.start, step.marks c.offset ++ t.marks⟩
  where
  start := h.start
  path n ms d path := by
    obtain ⟨m, hm⟩ := h.path _ _ _ (.pass hstep hpass path)
    use m
    have hmarks : (step.marks c.offset).reverse = step.marks c.offset := by
      cases hpass <;> rfl
    rw [List.reverse_append, hmarks, List.append_assoc]
    apply hm

/-- A thread that accepts answers with what it has traced. -/
theorem Traces.answers (h : p.Traces c₀ c t) (hstep : p.steps[t.state]? = some .accept) :
  p.Answers c₀ ⟨t.start, c.offset, t.marks⟩
  where
  start := h.start
  path := by
    obtain ⟨m, hm⟩ := h.path _ _ _ (.accept hstep)
    rw [List.append_nil] at hm
    exact ⟨m, c, hm, rfl⟩

/-- What is kept of threads that are followed has been traced. -/
theorem Sound.follow (h : p.Sound c₀ c front) (ht : p.Traces c₀ c t) (budget : Nat) :
  p.Sound c₀ c (p.follow c budget t front)
  := by
  induction budget generalizing t front with
  | zero => apply h
  | succ budget ih =>
    rw [Pattern.follow]
    split
    next => apply h
    next =>
      have h' : p.Sound c₀ c { front with seen := front.seen.insert t.state } :=
        ⟨h.onward, h.complete⟩
      dsimp only
      split
      next => apply h'
      next hstep =>
        use h'.onward
        rintro r ⟨⟩
        apply ht.answers hstep
      next hstep =>
        split
        next => apply h'
        next hrest =>
          split
          next hx =>
            refine ⟨?_, h'.complete⟩
            intro u hu
            rcases List.mem_cons.mp hu with rfl | hu
            · exact ⟨_, _, hrest, ht.take hstep hrest hx⟩
            · apply h'.onward u hu
          next => apply h'
      next hstep =>
        split
        next ha => apply ih h' (ht.pass hstep (.check ha))
        next => apply h'
      next hstep => apply ih h' (ht.pass hstep .mark)
      next hstep => apply ih (ih h' (ht.pass hstep .first)) (ht.pass hstep .second)

/-- The front of threads keeps only what has been traced. -/
theorem sound_front (hts : ∀ t ∈ ts, p.Traces c₀ c t) :
  p.Sound c₀ c (p.front c ts)
  := by
  have hfold : ∀ front, p.Sound c₀ c front →
      p.Sound c₀ c (ts.foldl (fun front t => p.follow c p.steps.size t front) front) := by
    induction ts with
    | nil => exact fun _ h => h
    | cons t ts ih =>
      rw [List.forall_mem_cons] at hts
      exact fun front h => ih hts.2 _ (h.follow hts.1 _)
  apply hfold
  exact ⟨nofun, nofun⟩

/-- What a run finds has been read, if this holds of the best reading so far and of what the threads
have traced. -/
theorem answers_run {best : Option Reading} {before : Option Char} {offset : Nat}
    {rest : List Char} {r : Reading} (hts : ∀ t ∈ ts, p.Traces c₀ ⟨before, offset, rest⟩ t)
    (hbest : ∀ r, best = some r → p.Answers c₀ r)
    (hr : p.run ts best before offset rest = some r) :
  p.Answers c₀ r
  := by
  induction rest generalizing ts best before offset with
  | nil =>
    rcases Option.or_eq_some_iff.mp hr with hr | ⟨-, hr⟩
    · exact (sound_front hts).complete r hr
    · apply hbest r hr
  | cons x rest ih =>
    rw [run_cons] at hr
    apply ih _ _ hr
    · intro t ht
      obtain ⟨y, rest', hrest, htrace⟩ := (sound_front hts).onward t (List.mem_reverse.mp ht)
      cases hrest
      apply htrace
    · intro r hr
      rcases Option.or_eq_some_iff.mp hr with hr | ⟨-, hr⟩
      · exact (sound_front hts).complete r hr
      · apply hbest r hr

/-! ### Matching and searching -/

/-- A reading at a place follows a path from that place. -/
theorem answers_matchAt {r : Reading} (h : p.matchAt c = some r) :
  p.Answers c r
  := by
  apply answers_run _ _ h
  · intro t ht
    rw [List.mem_singleton.mp ht]
    apply traces_entry p c
  · nofun

/-- A pattern is read at a place exactly if its start completes there. -/
theorem matchAt_isSome_iff :
  (p.matchAt c).isSome ↔ Completes p.steps p.start c
  := by
  constructor
  · intro h
    obtain ⟨r, hr⟩ := Option.isSome_iff_exists.mp h
    obtain ⟨n, d, path, -⟩ := (answers_matchAt hr).path
    exact ⟨n, _, d, path⟩
  · intro h
    obtain ⟨r, hr, -⟩ : ∃ r, p.matchAt c = some r ∧ r.start = c.offset :=
      run_led (.here h rfl)
    apply Option.isSome_of_eq_some hr

theorem matchAt_eq_none_iff :
  p.matchAt c = none ↔ ¬Completes p.steps p.start c
  := by
  rw [← matchAt_isSome_iff, Option.not_isSome_iff_eq_none]

/-- The search finds the first place where there is a reading. -/
theorem search_spec (p : Pattern) (c : Cursor) :
  (∃ d, Cursor.IsFirst (fun d => (p.matchAt d).isSome) c d ∧ p.search c = some d.offset) ∨
    (∀ d, c ≤ d → p.matchAt d = none) ∧ p.search c = none
  := by
  simp only [matchAt_isSome_iff, matchAt_eq_none_iff]
  rcases @runFrom_dead p [] c.before c.offset c.rest nofun with
    ⟨d, r, hd, hr, hstart⟩ | ⟨hnone, hr⟩
  · left
    refine ⟨d, hd, ?_⟩
    rw [search, hr, Option.map_some, hstart]
  · right
    refine ⟨hnone, ?_⟩
    rw [search, hr, Option.map_none]

/-- A pattern occurs in a line when there is a reading at one of its places. -/
theorem occursIn_iff {line : List Char} :
  p.occursIn line ↔ ∃ d, Cursor.start line ≤ d ∧ (p.matchAt d).isSome
  := by
  rw [occursIn]
  rcases p.search_spec (Cursor.start line) with ⟨d, hd, hsearch⟩ | ⟨hnone, hsearch⟩
  · rw [hsearch]
    apply iff_of_true rfl
    exact ⟨d, hd.le, hd.holds⟩
  · rw [hsearch]
    apply iff_of_false nofun
    rintro ⟨d, hd, hsome⟩
    rw [hnone d hd] at hsome
    cases hsome

end Highlight.Pattern
