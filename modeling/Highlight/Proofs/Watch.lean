import Highlight.Editor.Watch
import Highlight.Proofs.Visit
import Mathlib.Order.Bounds.Basic

/-!
# How watches end

A watch looks at its host at time zero and then at regular times.  It ends with the first look that
finds the host decisive, or with the first message to stop if that comes earlier, and what else
happens in the meantime makes no difference.
-/

namespace Highlight

/-! ### Schedules -/

/-- What an event does to the host. -/
def WatchEvent.onHost : WatchEvent → Host → Host
  | .load, h => h.load
  | .openDocument text, h => h.openDocument text
  | _, h => h

/-- Somebody sends a message, or leaves. -/
def WatchEvent.isMessage : WatchEvent → Bool
  | .shutdown _ | .drop => true
  | _ => false

/-- The event is a message that does not say to stop, or the end of all messages. -/
def WatchEvent.isIdle : WatchEvent → Bool
  | .shutdown false | .drop => true
  | _ => false

/-- The host at a time if nobody looks at it. -/
def Host.after (h : Host) (events : List (Nat × WatchEvent)) (time : Nat) : Host :=
  (events.filter (·.1 ≤ time)).foldl (fun h e => e.2.onHost h) h

/-- Events after a time, each at a time of its own at which no look is due.  Messages come only as
long as somebody can send them. -/
inductive Schedule (interval : Nat) : (isOpen : Bool) → (now : Nat) → List (Nat × WatchEvent) → Prop
  | nil (isOpen : Bool) (now : Nat) : Schedule interval isOpen now []
  | cons {isOpen : Bool} {now time : Nat} {e : WatchEvent} {events : List (Nat × WatchEvent)}
      (later : now < time) (between : ¬interval ∣ time) (sent : e.isMessage → isOpen)
      (rest : Schedule interval (isOpen && e != .drop) time events) :
      Schedule interval isOpen now ((time, e) :: events)

/-- The times of the messages to stop. -/
def stops (events : List (Nat × WatchEvent)) : Set Nat :=
  { s | (s, .shutdown true) ∈ events }

theorem stops_cons {e : WatchEvent} (he : e ≠ .shutdown true) (time : Nat)
    (events : List (Nat × WatchEvent)) :
  stops ((time, e) :: events) = stops events
  := by
  ext s
  simp [stops, he.symm]

/-- Events that do nothing do not stop a watch. -/
theorem stops_filter (events : List (Nat × WatchEvent)) :
  stops (events.filter (!·.2.isIdle)) = stops events
  := by
  ext s
  simp [stops, WatchEvent.isIdle]

/-- Events that do nothing do not change the host. -/
theorem Host.after_filter (h : Host) (events : List (Nat × WatchEvent)) (time : Nat) :
  h.after (events.filter (!·.2.isIdle)) time = h.after events time
  := by
  have idle : ∀ (h : Host) (e : Nat × WatchEvent), ¬(!e.2.isIdle) = true → e.2.onHost h = h := by
    rintro h ⟨_, e⟩ he
    cases e <;> simp_all [WatchEvent.isIdle, WatchEvent.onHost]
  have comm : (events.filter (!·.2.isIdle)).filter (·.1 ≤ time) =
      (events.filter (·.1 ≤ time)).filter (!·.2.isIdle) := by
    simp only [List.filter_filter, Bool.and_comm]
  unfold Host.after
  rw [comm, List.foldl_filter]
  congr 1
  funext h e
  split
  next => rfl
  next he => rw [idle h e he]

namespace Schedule

variable {d now time : Nat} {isOpen : Bool} {events : List (Nat × WatchEvent)}

/-- All events of a schedule are in the future. -/
theorem lt_of_mem (hs : Schedule d isOpen now events) :
  ∀ e ∈ events, now < e.1
  := by
  induction hs with
  | nil => simp
  | cons later between sent rest ih =>
    intro e he
    obtain rfl | he := List.mem_cons.mp he
    · apply later
    · apply later.trans (ih e he)

/-- No message to stop comes before the first event. -/
theorem le_of_mem_stops {e : WatchEvent} {s : Nat}
    (hs : Schedule d isOpen now ((time, e) :: events)) (h : s ∈ stops ((time, e) :: events)) :
  time ≤ s
  := by
  cases hs with
  | cons later between sent rest =>
    obtain heq | hmem := List.mem_cons.mp h
    · exact (Prod.mk.inj heq).1.ge
    · exact (rest.lt_of_mem _ hmem).le

/-- A look that is due by the first event is due before it. -/
theorem lt_of_due {e : WatchEvent} {k : Nat} (hs : Schedule d isOpen now ((time, e) :: events))
    (hk : k * d ≤ time) :
  k * d < time
  := by
  cases hs with
  | cons later between sent rest =>
    apply lt_of_le_of_ne hk
    rintro rfl
    apply between (Nat.dvd_mul_left d k)

/-- Nothing has happened yet. -/
theorem filter_of_le (hs : Schedule d isOpen now events) (ht : time ≤ now) :
  events.filter (·.1 ≤ time) = []
  := by
  apply List.filter_eq_nil_iff.mpr
  intro e he
  have hlt := hs.lt_of_mem e he
  simp
  omega

end Schedule

namespace Watch

/-- The watch at a time, with the events up to then. -/
def upTo (w : Watch) (now : Nat) (events : List (Nat × WatchEvent)) (time : Nat) : Watch :=
  ((w.run now (events.filter (·.1 ≤ time))).2).advance time

/-- A watch that has looked at its host `n` times, in vain. -/
def waiting (a : Attachment) (h : Host) (d : Nat) (isOpen isListening : Bool) (n : Nat) : Watch where
  attachment := a
  host := h
  interval := d
  polls := n
  mailbox := { isOpen }
  wake := n * d
  isListening

/-- How a watch ends on a decisive host. -/
def verdict (h : Host) (polls : Nat) : WatchOutcome :=
  if h.hasEditorApi then .attached polls else .failed .editorApiUnavailable

/-- The watch has ended, after a number of looks. -/
structure Ended (w : Watch) (outcome : WatchOutcome) (polls : Nat) : Prop where
  outcome : w.outcome = some outcome
  polls : w.polls = polls

theorem Ended.isRunning {w : Watch} {outcome : WatchOutcome} {polls : Nat}
    (hw : w.Ended outcome polls) :
  w.isRunning = false
  := by rw [Watch.isRunning, hw.outcome, Option.isNone_some]

variable {a : Attachment} {h : Host} {d n now time : Nat} {isOpen isListening : Bool}
  {events : List (Nat × WatchEvent)} {w : Watch}

/-! ### Events -/

@[simp]
theorem happen_host (w : Watch) (e : WatchEvent) :
  (w.happen e).host = e.onHost w.host
  := by
  cases e <;> rfl

@[simp]
theorem happen_outcome (w : Watch) (e : WatchEvent) :
  (w.happen e).outcome = w.outcome
  := by
  cases e <;> rfl

@[simp]
theorem happen_polls (w : Watch) (e : WatchEvent) :
  (w.happen e).polls = w.polls
  := by
  cases e <;> rfl

@[simp]
theorem happen_changes (w : Watch) (e : WatchEvent) :
  (w.happen e).changes = w.changes
  := by
  cases e <;> rfl

/-! ### Watches that have ended -/

/-- A watch that has ended does not listen. -/
theorem listen_of_ended (hw : w.isRunning = false) :
  w.listen = w
  := by
  unfold listen
  rw [hw]
  rfl

theorem resume_of_ended (hw : w.isRunning = false) (now : Nat) :
  w.resume now = w
  := by
  unfold resume
  simp [listen_of_ended hw, hw]

/-- A watch that has ended does not look. -/
theorem ticks_of_ended (hw : w.isRunning = false) (n : Nat) :
  ticks n w = w
  := by
  induction n with
  | zero => rfl
  | succ n ih => rw [ticks, resume_of_ended hw, ih]

/-- A watch that has ended does not wait. -/
theorem advance_of_ended (hw : w.isRunning = false) (time : Nat) :
  w.advance time = w
  := by
  unfold advance
  rw [listen_of_ended hw]
  apply ticks_of_ended hw

/-- After the end, events change nothing but the host and the mailbox. -/
theorem run_of_ended (hw : w.isRunning = false) (now : Nat) (events : List (Nat × WatchEvent)) :
  let last := (w.run now events).2
  last.outcome = w.outcome ∧ last.polls = w.polls ∧ last.changes = w.changes ∧
    last.host = events.foldl (fun h e => e.2.onHost h) w.host
  := by
  induction events generalizing w now with
  | nil => simp [run]
  | cons e events ih =>
    have happened : (w.happen e.2).isRunning = false := by rw [isRunning, happen_outcome]; exact hw
    simpa [run, advance_of_ended hw] using ih happened e.1

/-- A watch that has ended stays so whatever happens. -/
theorem Ended.happen {o : WatchOutcome} {p : Nat} (hw : w.Ended o p) (e : WatchEvent) :
  (w.happen e).Ended o p
  := ⟨by rw [happen_outcome, hw.outcome], by rw [happen_polls, hw.polls]⟩

/-- After the end of a watch only the host changes, by the events. -/
theorem upTo_of_ended (hw : w.isRunning = false) (now : Nat) (events : List (Nat × WatchEvent))
    (time : Nat) :
  let later := w.upTo now events time
  later.outcome = w.outcome ∧ later.polls = w.polls ∧ later.changes = w.changes ∧
    later.host = w.host.after events time
  := by
  have hlast := run_of_ended hw now (events.filter (·.1 ≤ time))
  have hrunning : (w.run now (events.filter (·.1 ≤ time))).2.isRunning = false := by
    rw [isRunning, hlast.1]
    apply hw
  rw [upTo, advance_of_ended hrunning]
  apply hlast

/-- A watch that has ended stays so up to any time. -/
theorem Ended.upTo {o : WatchOutcome} {p : Nat} (hw : w.Ended o p) (now : Nat)
    (events : List (Nat × WatchEvent)) (time : Nat) :
  (w.upTo now events time).Ended o p
  := by
  obtain ⟨houtcome, hpolls, -, -⟩ := upTo_of_ended hw.isRunning now events time
  exact ⟨houtcome.trans hw.outcome, hpolls.trans hw.polls⟩

/-! ### Looks -/

/-- Listening notices that the sender has gone. -/
theorem listen_waiting :
  (waiting a h d isOpen isListening n).listen =
    waiting a h d isOpen (isListening && isOpen) n
  := by
  cases isListening <;> rfl

/-- When the time of a look comes, the watch looks. -/
theorem resume_waiting :
  (waiting a h d isOpen isListening n).resume (n * d) =
    (waiting a h d isOpen (isListening && isOpen) n).look (n * d)
  := by
  unfold resume
  rw [listen_waiting]
  simp [waiting, isRunning]

/-- A look that finds the host not decisive is followed by another one. -/
theorem look_waiting (ha : a.isAttached = false) (hh : h.isDecisive = false) :
  (waiting a h d isOpen isListening n).look (n * d) = waiting a h d isOpen isOpen (n + 1)
  := by
  obtain ⟨hattachment, hchanges, hanswer⟩ := Attachment.poll_of_not_decisive ha hh
  have hhost := Visit.performAll_of_changes hchanges h
  simp [look, poll, attend, isRunning, Mailbox.read, waiting, hattachment, hchanges, hanswer, hhost,
    Nat.succ_mul]

/-- A look that finds the host decisive is the last one. -/
theorem look_waiting_of_decisive (ha : a.isAttached = false) (hh : h.isDecisive = true) :
  ((waiting a h d isOpen isListening n).look (n * d)).Ended (verdict h (n + 1)) (n + 1)
  := by
  unfold verdict
  cases hi : h.hasEditorApi with
  | false =>
    constructor <;> simp [look, poll, isRunning, waiting, Attachment.poll_of_no_api ha hh hi]
  | true =>
    constructor <;> simp [look, poll, isRunning, waiting, Attachment.poll_of_api ha hh hi]

/-- As long as the host is not decisive, each tick is one more look. -/
theorem ticks_waiting (ha : a.isAttached = false) (hh : h.isDecisive = false) (k : Nat) :
  ticks (k + 1) (waiting a h d isOpen isListening n) =
    waiting a h d isOpen isOpen (n + k + 1)
  := by
  induction k generalizing n isListening with
  | zero =>
    change (waiting a h d isOpen isListening n).resume (n * d) = _
    rw [resume_waiting, look_waiting ha hh]
  | succ k ih =>
    change ticks (k + 1) ((waiting a h d isOpen isListening n).resume (n * d)) = _
    rw [resume_waiting, look_waiting ha hh, ih, Nat.add_right_comm n 1 k, Nat.add_assoc n k 1]

/-- The first look at a decisive host is the last one. -/
theorem ticks_waiting_of_decisive (ha : a.isAttached = false) (hh : h.isDecisive = true)
    (k : Nat) :
  (ticks (k + 1) (waiting a h d isOpen isListening n)).Ended (verdict h (n + 1)) (n + 1)
  := by
  change (ticks k ((waiting a h d isOpen isListening n).resume (n * d))).Ended _ _
  rw [resume_waiting]
  have hlook : ((waiting a h d isOpen (isListening && isOpen) n).look (n * d)).Ended _ _ :=
    look_waiting_of_decisive ha hh
  rwa [ticks_of_ended hlook.isRunning]

/-! ### Waiting for a time -/

/-- The looks that are due are those of the multiples of the interval up to the time. -/
theorem due_waiting (hd : 0 < d) :
  (waiting a h d isOpen isListening n).due time = time / d + 1 - n
  := by
  change (if (true && decide (n * d ≤ time)) = true then (time - n * d) / d + 1 else 0) = _
  rw [Bool.true_and]
  by_cases ht : n * d ≤ time
  · have hn := (Nat.le_div_iff_mul_le hd).mpr ht
    rw [if_pos (decide_eq_true ht), Nat.mul_comm n d, Nat.sub_mul_div]
    omega
  · have hn := mt (Nat.le_div_iff_mul_le hd).mp ht
    rw [if_neg (mt of_decide_eq_true ht)]
    omega

/-- Up to a time the watch looks as often as looks are due. -/
theorem advance_waiting (hd : 0 < d) (time : Nat) :
  (waiting a h d isOpen isListening n).advance time =
    ticks (time / d + 1 - n) (waiting a h d isOpen (isListening && isOpen) n)
  := by
  change ticks _ _ = _
  rw [listen_waiting, due_waiting hd]

/-- A watch that nothing happens to either looks at its host in vain for as long as it is waited
for, or it ends with the first look. -/
theorem advance_waiting_cases (ha : a.isAttached = false) (hd : 0 < d) (hn : n ≤ time / d + 1)
    (hl : isListening = isOpen ∨ n = 0) :
  (n ≤ time / d ∧ h.isDecisive = true ∧
    ((waiting a h d isOpen isListening n).advance time).Ended (verdict h (n + 1)) (n + 1)) ∨
  ((n ≤ time / d → h.isDecisive = false) ∧
    (waiting a h d isOpen isListening n).advance time =
      waiting a h d isOpen isOpen (time / d + 1))
  := by
  rw [advance_waiting hd]
  obtain hlt | hle := Nat.lt_or_ge (time / d) n
  · -- The next look is not due yet.
    right
    obtain rfl : n = time / d + 1 := Nat.le_antisymm hn hlt
    obtain rfl := hl.resolve_right (Nat.succ_ne_zero _)
    rw [Nat.sub_self, Bool.and_self]
    exact ⟨fun hle => absurd hle hlt.not_ge, rfl⟩
  · obtain ⟨k, hk⟩ := Nat.exists_eq_add_of_le hle
    rw [hk, Nat.add_assoc, Nat.add_sub_cancel_left]
    cases hh : h.isDecisive with
    | true => exact .inl ⟨hk ▸ hle, rfl, ticks_waiting_of_decisive ha hh k⟩
    | false => exact .inr ⟨fun _ => rfl, ticks_waiting ha hh k⟩

/-! ### What happens to a watch -/

theorem listen_listen (w : Watch) :
  w.listen.listen = w.listen
  := by
  obtain ⟨_, _, _, _, _, ⟨stop, isNew, isOpen⟩, _, isListening, outcome⟩ := w
  cases outcome <;> cases isListening <;> cases isNew <;> cases stop <;> cases isOpen <;> rfl

/-- A watch takes notice of a message before anything else. -/
theorem advance_listen (w : Watch) (time : Nat) :
  w.listen.advance time = w.advance time
  := by
  unfold advance
  rw [listen_listen]

/-- Whatever happens, a watch goes on waiting, unless it is told to stop. -/
theorem listen_happen_waiting {e : WatchEvent} (he : e ≠ .shutdown true) :
  ((waiting a h d isOpen isOpen n).happen e).listen =
    waiting a (e.onHost h) d (isOpen && e != .drop) (isOpen && e != .drop) n
  := by
  cases e with
  | load => cases isOpen <;> rfl
  | openDocument text => cases isOpen <;> rfl
  | shutdown stop => cases stop <;> cases isOpen <;> first | rfl | exact absurd rfl he
  | drop => cases isOpen <;> rfl
  | nothing => cases isOpen <;> rfl

/-- A message to stop ends the watch. -/
theorem listen_happen_stop :
  let w := ((waiting a h d true true n).happen (.shutdown true)).listen
  w.Ended (.cancelled n) n ∧ w.changes = [] ∧ w.host = h
  := ⟨⟨rfl, rfl⟩, rfl, rfl⟩

/-- An event happens after the watch has waited for its time. -/
theorem upTo_cons {e : WatchEvent} {time' : Nat}
    (hs : Schedule d isOpen now ((time', e) :: events)) :
  w.upTo now ((time', e) :: events) time =
    if time' ≤ time then ((w.advance time').happen e).upTo time' events time else w.advance time
  := by
  cases hs with
  | cons later between sent rest =>
    unfold upTo
    split
    next ht => rw [List.filter_cons_of_pos (by simpa using ht), run, if_pos later]
    next ht =>
      rw [List.filter_cons_of_neg (by simpa using ht), rest.filter_of_le (by omega)]
      rfl

/-- Listening before anything happens changes nothing. -/
theorem upTo_listen (hs : Schedule d isOpen now events) (time : Nat) :
  w.listen.upTo now events time = w.upTo now events time
  := by
  cases hs with
  | nil => apply advance_listen
  | cons later between sent rest =>
    rw [upTo_cons (.cons later between sent rest), upTo_cons (.cons later between sent rest),
      advance_listen, advance_listen]

theorem after_cons {e : WatchEvent} {time' : Nat}
    (hs : Schedule d isOpen now ((time', e) :: events)) :
  h.after ((time', e) :: events) time =
    if time' ≤ time then (e.onHost h).after events time else h
  := by
  cases hs with
  | cons later between sent rest =>
    unfold Host.after
    split
    next ht => rw [List.filter_cons_of_pos (by simpa using ht), List.foldl_cons]
    next ht =>
      rw [List.filter_cons_of_neg (by simpa using ht), rest.filter_of_le (by omega)]
      rfl

/-! ### Stages -/

/-- What has become of a watch by a time if the looks from the `n`th on and the messages to stop
have been taken into account. -/
inductive Stage (d n : Nat) (host : Nat → Host) (stops : Set Nat) (time : Nat) (w : Watch) : Prop
  /-- Neither a look nor a message has ended the watch. -/
  | pending (calm : ∀ k, n ≤ k → k * d ≤ time → (host (k * d)).isDecisive = false)
      (unstopped : ∀ s ∈ stops, time < s) (outcome : w.outcome = none)
      (polls : w.polls = time / d + 1) (changes : w.changes = []) (untouched : w.host = host time)
  /-- A look has ended the watch. -/
  | looked (k : Nat) (le : n ≤ k) (due : k * d ≤ time)
      (decisive : (host (k * d)).isDecisive = true)
      (calm : ∀ j, n ≤ j → j < k → (host (j * d)).isDecisive = false)
      (unstopped : ∀ s ∈ stops, k * d < s) (ended : w.Ended (verdict (host (k * d)) (k + 1)) (k + 1))
  /-- A message has ended the watch. -/
  | stopped (s : Nat) (sent : s ∈ stops) (due : s ≤ time) (first : ∀ s' ∈ stops, s ≤ s')
      (calm : ∀ k, n ≤ k → k * d ≤ s → (host (k * d)).isDecisive = false)
      (ended : w.Ended (.cancelled (s / d + 1)) (s / d + 1)) (changes : w.changes = [])
      (untouched : w.host = host time)

/-- Earlier looks that have found the host not decisive make no difference. -/
theorem Stage.back {m : Nat} {host host' : Nat → Host} {stops : Set Nat}
    (hw : Stage d n host stops time w) (hm : m ≤ n)
    (calm : ∀ k, m ≤ k → k < n → (host' (k * d)).isDecisive = false)
    (same : ∀ k, n ≤ k → host' (k * d) = host (k * d)) (hnow : host' time = host time) :
  Stage d m host' stops time w
  := by
  have lift : ∀ k, m ≤ k → (n ≤ k → (host (k * d)).isDecisive = false) →
      (host' (k * d)).isDecisive = false := by
    intro k hk hlater
    obtain hlt | hle := Nat.lt_or_ge k n
    · apply calm k hk hlt
    · rw [same k hle]
      apply hlater hle
  cases hw with
  | pending calm' unstopped outcome polls changes untouched =>
    refine .pending ?_ unstopped outcome polls changes (untouched.trans hnow.symm)
    exact fun k hk ht => lift k hk fun hn => calm' k hn ht
  | looked k le due decisive calm' unstopped ended =>
    rw [← same k le] at decisive ended
    refine .looked k (hm.trans le) due decisive ?_ unstopped ended
    exact fun j hj hjk => lift j hj fun hn => calm' j hn hjk
  | stopped s sent due first calm' ended changes untouched =>
    refine .stopped s sent due first ?_ ended changes (untouched.trans hnow.symm)
    exact fun k hk hs => lift k hk fun hn => calm' k hn hs

/-- What has become of a watch is settled by the host and the messages to stop. -/
theorem Stage.unique {w' : Watch} {host : Nat → Host} {stops : Set Nat}
    (hw : Stage d n host stops time w) (hw' : Stage d n host stops time w') :
  w.outcome = w'.outcome ∧ w.polls = w'.polls
  := by
  cases hw with
  | pending calm unstopped outcome polls =>
    cases hw' with
    | pending _ _ outcome' polls' => exact ⟨outcome.trans outcome'.symm, polls.trans polls'.symm⟩
    | looked k le due decisive => simp [calm k le due] at decisive
    | stopped s sent due => exact absurd due (unstopped s sent).not_ge
  | looked k le due decisive calm unstopped ended =>
    cases hw' with
    | pending calm' => simp [calm' k le due] at decisive
    | looked k' le' _ decisive' calm' _ ended' =>
      obtain rfl : k = k' := by
        apply Nat.le_antisymm
        · exact Nat.le_of_not_lt fun hlt => by simp [calm k' le' hlt] at decisive'
        · exact Nat.le_of_not_lt fun hlt => by simp [calm' k le hlt] at decisive
      exact ⟨ended.outcome.trans ended'.outcome.symm, ended.polls.trans ended'.polls.symm⟩
    | stopped s sent _ _ calm' => simp [calm' k le (unstopped s sent).le] at decisive
  | stopped s sent due first calm ended =>
    cases hw' with
    | pending _ unstopped => exact absurd due (unstopped s sent).not_ge
    | looked k le _ decisive _ unstopped => simp [calm k le (unstopped s sent).le] at decisive
    | stopped s' sent' _ first' _ ended' =>
      obtain rfl := (first s' sent').antisymm (first' s sent)
      exact ⟨ended.outcome.trans ended'.outcome.symm, ended.polls.trans ended'.polls.symm⟩

/-- A look at a decisive host is the first one if no look before it was. -/
theorem isLeast_of_calm {host : Nat → Host} {k : Nat}
    (decisive : (host (k * d)).isDecisive = true)
    (calm : ∀ j, 0 ≤ j → j < k → (host (j * d)).isDecisive = false) :
  IsLeast { k | (host (k * d)).isDecisive = true } k
  := by
  refine ⟨decisive, fun j hj => ?_⟩
  apply Nat.le_of_not_lt
  intro hlt
  exact absurd hj (by simp [calm j (Nat.zero_le j) hlt])

/-- The look that finds the host decisive ends the watch, unless it has been told to stop. -/
theorem Stage.outcome_of_look {host : Nat → Host} {stops : Set Nat} {k : Nat}
    (hw : Stage d 0 host stops time w)
    (hk : IsLeast { k | (host (k * d)).isDecisive = true } k) (hstops : ∀ s ∈ stops, ¬s < k * d) :
  w.outcome = if time < k * d then none else some (verdict (host (k * d)) (k + 1))
  := by
  have decisive : (host (k * d)).isDecisive = true := hk.1
  cases hw with
  | pending calm unstopped outcome =>
    rw [if_pos, outcome]
    apply Nat.lt_of_not_le
    intro hle
    simp [calm k (Nat.zero_le k) hle] at decisive
  | looked j le due decisive' calm unstopped ended =>
    obtain rfl := (isLeast_of_calm decisive' calm).unique hk
    rw [if_neg due.not_gt, ended.outcome]
  | stopped s sent due first calm =>
    simp [calm k (Nat.zero_le k) (Nat.le_of_not_lt (hstops s sent))] at decisive

/-- The first message to stop ends the watch, unless a look has ended it before. -/
theorem Stage.outcome_of_stop {host : Nat → Host} {stops : Set Nat} {s : Nat}
    (hw : Stage d 0 host stops time w) (hs : IsLeast stops s)
    (hlooks : ∀ k, IsLeast { k | (host (k * d)).isDecisive = true } k → s < k * d) :
  w.outcome = (if time < s then none else some (.cancelled (s / d + 1))) ∧
    w.changes = [] ∧ w.host = host time
  := by
  cases hw with
  | pending calm unstopped outcome polls changes untouched =>
    rw [if_pos (unstopped s hs.1)]
    exact ⟨outcome, changes, untouched⟩
  | looked k le due decisive calm unstopped ended =>
    have hlt := hlooks k (isLeast_of_calm decisive calm)
    exact absurd hlt (unstopped s hs.1).not_gt
  | stopped s' sent due first calm ended changes untouched =>
    obtain rfl := (first s hs.1).antisymm (hs.2 sent)
    rw [if_neg due.not_gt]
    exact ⟨ended.outcome, changes, untouched⟩

/-- The next look is the last one. -/
theorem Stage.of_look {host : Nat → Host} {stops : Set Nat} (hdue : n * d ≤ time)
    (hhost : host (n * d) = h) (hh : h.isDecisive = true) (hstops : ∀ s ∈ stops, n * d < s)
    (hw : w.Ended (verdict h (n + 1)) (n + 1)) :
  Stage d n host stops time w
  := by
  subst hhost
  refine .looked n le_rfl hdue hh ?_ hstops hw
  exact fun j hj hlt => absurd hlt hj.not_gt

/-- What becomes of a watch up to a time before which nothing happens. -/
theorem stage_advance {host : Nat → Host} {stops : Set Nat} (ha : a.isAttached = false)
    (hd : 0 < d) (hn : n ≤ time / d + 1) (hl : isListening = isOpen ∨ n = 0)
    (same : ∀ t ≤ time, host t = h) (unstopped : ∀ s ∈ stops, time < s) :
  Stage d n host stops time ((waiting a h d isOpen isListening n).advance time)
  := by
  obtain ⟨hle, hh, hended⟩ | ⟨hcalm, hadvance⟩ := advance_waiting_cases ha hd hn hl (h := h)
  · have hdue := (Nat.le_div_iff_mul_le hd).mp hle
    exact .of_look hdue (same _ hdue) hh (fun s hs => hdue.trans_lt (unstopped s hs)) hended
  · rw [hadvance]
    refine .pending ?_ unstopped rfl rfl rfl (same time le_rfl).symm
    intro k hk ht
    rw [same _ ht]
    exact hcalm (hk.trans ((Nat.le_div_iff_mul_le hd).mpr ht))

/-- What becomes of a watch that is told to stop. -/
theorem stage_stop {time' : Nat} (hs : Schedule d true now ((time', .shutdown true) :: events))
    (ht : time' ≤ time)
    (calm : ∀ k, n ≤ k → k * d ≤ time' →
      (h.after ((time', .shutdown true) :: events) (k * d)).isDecisive = false) :
  Stage d n (h.after ((time', .shutdown true) :: events))
    (stops ((time', .shutdown true) :: events)) time
    (((waiting a h d true true (time' / d + 1)).happen (.shutdown true)).listen.upTo
      time' events time)
  := by
  obtain ⟨hended, hchanges, hhost⟩ :=
    listen_happen_stop (a := a) (h := h) (d := d) (n := time' / d + 1)
  obtain ⟨-, -, hchanges', hhost'⟩ := upTo_of_ended hended.isRunning time' events time
  refine .stopped time' List.mem_cons_self ht (fun s => hs.le_of_mem_stops) calm
    (hended.upTo ..) (hchanges'.trans hchanges) ?_
  rw [hhost', hhost, after_cons hs, if_pos ht]
  rfl

/-- What becomes of a watch that goes on from an event. -/
theorem Stage.cons {e : WatchEvent} {time' : Nat}
    (hw : Stage d (time' / d + 1) ((e.onHost h).after events) (stops events) time w) (hd : 0 < d)
    (hs : Schedule d isOpen now ((time', e) :: events)) (he : e ≠ .shutdown true)
    (ht : time' ≤ time) (hn : n ≤ time' / d + 1)
    (calm : ∀ k, n ≤ k → k * d ≤ time' →
      (h.after ((time', e) :: events) (k * d)).isDecisive = false) :
  Stage d n (h.after ((time', e) :: events)) (stops ((time', e) :: events)) time w
  := by
  rw [stops_cons he]
  apply hw.back hn
  · intro k hk hlt
    apply calm k hk ((Nat.le_div_iff_mul_le hd).mp (Nat.le_of_lt_succ hlt))
  · intro k hk
    have hlt := (Nat.div_lt_iff_lt_mul hd).mp hk
    rw [after_cons hs, if_pos hlt.le]
  · rw [after_cons hs, if_pos ht]

/-- What becomes of a watch, by the events that happen to it. -/
theorem stage_upTo (ha : a.isAttached = false) (hd : 0 < d) (hs : Schedule d isOpen now events)
    (hn : n ≤ now / d + 1) (hl : isListening = isOpen ∨ n = 0) (ht : now ≤ time) :
  Stage d n (h.after events) (stops events) time
    ((waiting a h d isOpen isListening n).upTo now events time)
  := by
  induction hs generalizing h n isListening with
  | nil isOpen now =>
    apply stage_advance ha hd _ hl
    · exact fun t _ => rfl
    · simp [stops]
    · exact hn.trans (Nat.succ_le_succ (Nat.div_le_div_right ht))
  | @cons isOpen now time' e events later between sent rest ih =>
    have hs : Schedule d isOpen now ((time', e) :: events) := .cons later between sent rest
    rw [upTo_cons hs]
    split
    next hle =>
      have hn' : n ≤ time' / d + 1 :=
        hn.trans (Nat.succ_le_succ (Nat.div_le_div_right later.le))
      obtain ⟨hdue, hh, hended⟩ | ⟨hcalm, hadvance⟩ := advance_waiting_cases ha hd hn' hl (h := h)
      · -- A look before the event has ended the watch.
        have hlt := hs.lt_of_due ((Nat.le_div_iff_mul_le hd).mp hdue)
        refine .of_look (hlt.le.trans hle) ?_ hh ?_ ((hended.happen e).upTo ..)
        · rw [after_cons hs, if_neg hlt.not_ge]
        · exact fun s hs' => hlt.trans_le (hs.le_of_mem_stops hs')
      · have calm : ∀ k, n ≤ k → k * d ≤ time' →
            (h.after ((time', e) :: events) (k * d)).isDecisive = false := by
          intro k hk hdue
          rw [after_cons hs, if_neg (hs.lt_of_due hdue).not_ge]
          apply hcalm (hk.trans ((Nat.le_div_iff_mul_le hd).mpr hdue))
        rw [hadvance, ← upTo_listen rest]
        by_cases he : e = .shutdown true
        · subst he
          obtain rfl := sent rfl
          apply stage_stop hs hle calm
        · rw [listen_happen_waiting he]
          apply (ih le_rfl (.inl rfl) hle).cons hd hs he hle hn' calm
    next hgt =>
      apply stage_advance ha hd _ hl
      · intro t ht'
        rw [after_cons hs, if_neg (by omega)]
      · exact fun s hs' => (Nat.lt_of_not_le hgt).trans_le (hs.le_of_mem_stops hs')
      · exact hn.trans (Nat.succ_le_succ (Nat.div_le_div_right ht))

/-! ### The end -/

/-- A watch on a fresh attachment ends with its first look at a decisive host, unless a message to
stop comes earlier.  Then it ends with the first such message and has told the host nothing.  If
there is neither such a look nor such a message, it never ends.  As long as it goes on, it looks
at the host at time zero and at every multiple of the interval.  Messages that do not say to stop,
and the end of all messages, make no difference. -/
theorem outcome_upTo (a : Attachment) (ha : a.isAttached = false) (h : Host) (d : Nat)
    (hd : 0 < d) (events : List (Nat × WatchEvent)) (hs : Schedule d true 0 events) :
  let w : Watch := { attachment := a, host := h, interval := d }
  let looks := { k | (h.after events (k * d)).isDecisive = true }
  (∀ k, IsLeast looks k → (∀ s ∈ stops events, ¬s < k * d) → ∀ time,
    (w.upTo 0 events time).outcome =
      if time < k * d then none
      else some (if (h.after events (k * d)).hasEditorApi then .attached (k + 1)
        else .failed .editorApiUnavailable)) ∧
  (∀ s, IsLeast (stops events) s → (∀ k, IsLeast looks k → s < k * d) → ∀ time,
    (w.upTo 0 events time).outcome =
      (if time < s then none else some (.cancelled (s / d + 1))) ∧
    (w.upTo 0 events time).changes = [] ∧
    (w.upTo 0 events time).host = h.after events time) ∧
  ((¬∃ k, IsLeast looks k ∧ ∀ s ∈ stops events, ¬s < k * d) →
    (¬∃ s, IsLeast (stops events) s ∧ ∀ k, IsLeast looks k → s < k * d) → ∀ time,
    (w.upTo 0 events time).outcome = none) ∧
  (∀ time, (w.upTo 0 events time).outcome = none →
    (w.upTo 0 events time).polls = time / d + 1) ∧
  (∀ events', Schedule d true 0 events' →
    events'.filter (!·.2.isIdle) = events.filter (!·.2.isIdle) → ∀ time,
    (w.upTo 0 events' time).outcome = (w.upTo 0 events time).outcome ∧
      (w.upTo 0 events' time).polls = (w.upTo 0 events time).polls)
  := by
  intro w looks
  have hw : w = waiting a h d true false 0 := by simp [w, waiting]
  have stage : ∀ events, Schedule d true 0 events → ∀ time,
      Stage d 0 (h.after events) (stops events) time (w.upTo 0 events time) := by
    intro events hs time
    rw [hw]
    apply stage_upTo ha hd hs (Nat.zero_le _) (.inr rfl) (Nat.zero_le time)
  refine ⟨?_, ?_, ?_, ?_, ?_⟩
  · intro k hk hstops time
    exact (stage events hs time).outcome_of_look hk hstops
  · intro s hstop hlooks time
    exact (stage events hs time).outcome_of_stop hstop hlooks
  · intro hlook hstop time
    cases stage events hs time with
    | pending _ _ outcome => exact outcome
    | looked k _ _ decisive calm unstopped =>
      exact absurd ⟨k, isLeast_of_calm decisive calm, fun s hs => (unstopped s hs).not_gt⟩ hlook
    | stopped s sent _ first calm =>
      refine absurd ⟨s, ⟨sent, fun s' => first s'⟩, fun k hk => ?_⟩ hstop
      have hdecisive : (h.after events (k * d)).isDecisive = true := hk.1
      apply Nat.lt_of_not_le
      intro hle
      simp [calm k (Nat.zero_le k) hle] at hdecisive
  · intro time hnone
    cases stage events hs time with
    | pending _ _ _ polls => exact polls
    | looked _ _ _ _ _ _ ended => simp [ended.outcome] at hnone
    | stopped _ _ _ _ _ ended => simp [ended.outcome] at hnone
  · intro events' hs' heq time
    have hhost : h.after events' = h.after events := by
      funext t
      rw [← Host.after_filter, heq, Host.after_filter]
    have hstops : stops events' = stops events := by rw [← stops_filter, heq, stops_filter]
    have hstage := stage events' hs' time
    rw [hhost, hstops] at hstage
    apply hstage.unique (stage events hs time)

/-- A host loads and opens a document between two looks.  The watch attaches with its fourth look,
unless it is told to stop after the second. -/
theorem outcome_upTo_late :
  let a : Attachment := { registry := .empty, pipeline := "pipeline", shell := "shell" }
  let w : Watch := { attachment := a, host := .absent, interval := 1000 }
  let events : List (Nat × WatchEvent) :=
    [(500, .shutdown false), (1500, .load), (1600, .drop), (2500, .openDocument "trigger: none")]
  let events' : List (Nat × WatchEvent) :=
    [(500, .load), (1700, .shutdown true), (2500, .openDocument "trigger: none")]
  a.isAttached = false ∧ 0 < 1000 ∧ Schedule 1000 true 0 events ∧ Schedule 1000 true 0 events' ∧
    (∀ time, (w.upTo 0 events time).outcome =
      if time < 3000 then none else some (.attached 4)) ∧
    ∀ time, (w.upTo 0 events' time).outcome =
      if time < 1700 then none else some (.cancelled 2)
  := by
  intro a w events events'
  have hs : Schedule 1000 true 0 events :=
    .cons (by decide) (by decide) (by decide) <| .cons (by decide) (by decide) (by decide) <|
      .cons (by decide) (by decide) (by decide) <| .cons (by decide) (by decide) (by decide) <|
      .nil _ _
  have hs' : Schedule 1000 true 0 events' :=
    .cons (by decide) (by decide) (by decide) <| .cons (by decide) (by decide) (by decide) <|
      .cons (by decide) (by decide) (by decide) <| .nil _ _
  refine ⟨rfl, by decide, hs, hs', ?_, ?_⟩
  · have hk : IsLeast { k | (Host.absent.after events (k * 1000)).isDecisive = true } 3 := by
      refine ⟨by decide, fun k hk => Nat.le_of_not_lt fun hlt => ?_⟩
      have calm : ∀ k < 3, ¬(Host.absent.after events (k * 1000)).isDecisive = true := by decide
      apply calm k hlt hk
    apply (outcome_upTo a rfl .absent 1000 (by decide) events hs).1 3 hk
    simp [stops, events]
  · have hstop : IsLeast (stops events') 1700 := by simp [stops, events', IsLeast, lowerBounds]
    intro time
    refine ((outcome_upTo a rfl .absent 1000 (by decide) events' hs').2.1 1700 hstop ?_ time).1
    intro k hk
    apply Nat.lt_of_not_le
    intro hle
    have calm : ∀ k ≤ 1, ¬(Host.absent.after events' (k * 1000)).isDecisive = true := by decide
    apply calm k (by omega) hk.1

end Watch

end Highlight
