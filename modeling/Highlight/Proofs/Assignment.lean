import Mathlib.Data.List.Induction
import Mathlib.Data.List.Nodup
import Highlight.Proofs.Host
import Highlight.Proofs.Session

/-!
# The languages that members give

When nobody but its members tells the host of a session anything, each member gives its language to
the first document, if there is one when the member sets everything up, and to each document that is
opened later.  No document gets a language from the same member twice.
-/

namespace Highlight.Session

/-- What happens in a session in which nobody but the members tells the host anything. -/
inductive Event where
  | load
  | openDocument (text : String)
  | poll (i : Nat)
  | attach (i : Nat)
deriving DecidableEq, Repr

namespace Event

def step : Event → Step
  | load => .load
  | openDocument text => .openDocument text
  | poll i => .poll i
  | attach i => .attach i

/-- A document is opened. -/
def isOpening : Event → Bool
  | openDocument _ => true
  | _ => false

/-- The member that visits the host. -/
def visitor? : Event → Option Nat
  | poll i | attach i => some i
  | _ => none

end Event

/-- The number of documents that are opened. -/
def opened (events : List Event) : Nat :=
  events.countP (·.isOpening)

/-- The session after events. -/
def after (s : Session) (events : List Event) : Session :=
  s.run (events.map Event.step)

/-- The attachments of the members, in order. -/
def attachments (s : Session) : List Attachment :=
  s.members.map (·.attachment)

def isAttached (s : Session) (i : Nat) : Bool :=
  s.attachments[i]?.any (·.isAttached)

/-- The member that becomes attached by an event. -/
def joins? (s : Session) (e : Event) : Option Nat :=
  e.visitor?.filter fun i => !s.isAttached i && (s.after [e]).isAttached i

/-- The members that become attached in the course of events, in order. -/
def joined (s : Session) : List Event → List Nat
  | [] => []
  | e :: events => (s.joins? e).toList ++ (s.after [e]).joined events

/-- The members that give a document their language by an event behind earlier ones, with the number
of the document: all that are attached give it to a new document, and one that becomes attached
gives it to the first one. -/
def giving (s : Session) (earlier : List Event) (e : Event) : List (Nat × Nat) :=
  if e.isOpening then (s.joined earlier).map (·, opened earlier + 1)
  else if 0 < opened earlier then ((s.after earlier).joins? e).toList.map (·, 1)
  else []

/-- The members that give a document their language by events behind earlier ones, in order, with
the number of the document. -/
def givingFrom (s : Session) (earlier : List Event) : List Event → List (Nat × Nat)
  | [] => []
  | e :: events => s.giving earlier e ++ s.givingFrom (earlier ++ [e]) events

variable {s : Session} {i : Nat} {a : Attachment}

/-! ### One event after another -/

/-- Events of two parts happen one part after the other. -/
theorem after_append (s : Session) (events more : List Event) :
  s.after (events ++ more) = (s.after events).after more
  := by
  rw [after, List.map_append, run, List.foldl_append]
  rfl

theorem opened_append (events more : List Event) :
  opened (events ++ more) = opened events + opened more
  := List.countP_append

/-- Those who join in the second part do so in the session that the first part leaves. -/
theorem joined_append (s : Session) (events more : List Event) :
  s.joined (events ++ more) = s.joined events ++ (s.after events).joined more
  := by
  induction events generalizing s with
  | nil => rfl
  | cons e events ih =>
    rw [List.cons_append, joined, ih, joined, List.append_assoc, ← after_append]
    rfl

/-- The one who joins by the last event comes last. -/
theorem joined_concat (s : Session) (events : List Event) (e : Event) :
  s.joined (events ++ [e]) = s.joined events ++ ((s.after events).joins? e).toList
  := by
  rw [joined_append, joined, joined, List.append_nil]

/-- What is given by the last event comes last. -/
theorem givingFrom_concat (s : Session) (earlier events : List Event) (e : Event) :
  s.givingFrom earlier (events ++ [e]) =
    s.givingFrom earlier events ++ s.giving (earlier ++ events) e
  := by
  induction events generalizing earlier with
  | nil =>
    rw [List.nil_append, givingFrom, givingFrom, givingFrom, List.append_nil, List.append_nil,
      List.nil_append]
  | cons e' events ih =>
    rw [List.cons_append, givingFrom, ih, givingFrom, List.append_assoc, List.append_assoc]
    rfl

/-! ### Events -/

theorem attachments_start (h : Host) (as : List Attachment) :
  (start h as).attachments = as
  := by
  rw [attachments, start, List.map_map]
  apply List.map_id

/-- A visit changes nothing, or it sets everything up. -/
theorem visit_cases (s : Session) (i : Nat) {look : Attachment → Host → Visit}
    (hlook : ∀ (a : Attachment) h, a.Visits h (look a h)) :
  ((s.visit i look).host = s.host ∧ (s.visit i look).attachments = s.attachments) ∨
    ∃ a, s.attachments[i]? = some a ∧ a.isAttached = false ∧
      (s.visit i look).host = s.host.performAll (a.setup s.host.first?) ∧
      (s.visit i look).attachments = s.attachments.set i { a with isAttached := true }
  := by
  unfold visit
  split
  next => exact .inl ⟨rfl, rfl⟩
  next m hm =>
    have hi : s.attachments[i]? = some m.attachment := by
      rw [attachments, List.getElem?_map, hm]
      rfl
    cases hlook m.attachment s.host with
    | idle hattachment hchanges hanswer =>
      left
      constructor
      · apply Visit.performAll_of_changes hchanges
      · obtain ⟨hlt, hget⟩ := List.getElem?_eq_some_iff.mp hi
        rw [attachments, List.map_set, hattachment]
        apply Eq.trans _ (List.set_getElem_self hlt)
        rw [hget]
        rfl
    | setUp fresh hattachment hchanges hanswer =>
      right
      refine ⟨m.attachment, hi, fresh, ?_, ?_⟩
      · rw [← hchanges]
        symm
        apply Host.performAll_filter
      · rw [attachments, List.map_set, hattachment]
        rfl

/-- What an event does. -/
inductive Effect (s : Session) (e : Event) : Prop where
  /-- Nothing that concerns the languages of documents. -/
  | idle (opening : e.isOpening = false) (joins : s.joins? e = none)
      (attachments : (s.after [e]).attachments = s.attachments)
      (numbers : (s.after [e]).host.numbers = s.host.numbers)
      (hooks : (s.after [e]).host.hooks = s.host.hooks)
      (assignments : (s.after [e]).host.assignments = s.host.assignments)
  /-- A document is opened. -/
  | opens (text : String) (opening : e.isOpening = true) (joins : s.joins? e = none)
      (attachments : (s.after [e]).attachments = s.attachments)
      (host : (s.after [e]).host = s.host.openDocument text)
  /-- A member becomes attached. -/
  | joins (i : Nat) (a : Attachment) (opening : e.isOpening = false) (joins : s.joins? e = some i)
      (found : s.attachments[i]? = some a) (fresh : a.isAttached = false)
      (attachments : (s.after [e]).attachments = s.attachments.set i { a with isAttached := true })
      (host : (s.after [e]).host = s.host.performAll (a.setup s.host.first?))

/-- A visit of a member does nothing, or the member becomes attached. -/
theorem effect_visit {e : Event} (he : e.visitor? = some i) (hopening : e.isOpening = false)
    {look : Attachment → Host → Visit} (hlook : ∀ (a : Attachment) h, a.Visits h (look a h))
    (hafter : s.after [e] = s.visit i look) :
  s.Effect e
  := by
  have hjoins : s.joins? e =
      if !s.isAttached i && (s.after [e]).isAttached i then some i else none := by
    rw [joins?, he, Option.filter_some]
  obtain ⟨hhost, hsame⟩ | ⟨a, found, fresh, hhost, hset⟩ := visit_cases s i hlook
  · rw [← hafter] at hhost hsame
    refine .idle hopening ?_ hsame (by rw [hhost]) (by rw [hhost]) (by rw [hhost])
    rw [hjoins, isAttached, isAttached, hsame]
    simp
  · rw [← hafter] at hhost hset
    refine .joins i a hopening ?_ found fresh hset hhost
    obtain ⟨hi, -⟩ := List.getElem?_eq_some_iff.mp found
    rw [hjoins, isAttached, isAttached, hset, found, List.getElem?_set_self hi]
    simp [fresh]

/-- Each event has its effect. -/
theorem effect (s : Session) (e : Event) :
  s.Effect e
  := by
  cases e with
  | load => exact .idle rfl rfl rfl rfl rfl rfl
  | openDocument text => exact .opens text rfl rfl rfl rfl
  | poll i => apply effect_visit rfl rfl Attachment.visits_poll rfl
  | attach i => apply effect_visit rfl rfl Attachment.visits_attach rfl

/-! ### Runs -/

/-- The hook by which a member gives its language to new documents. -/
def hookOf? (as : List Attachment) (i : Nat) : Option Hook :=
  as[i]?.map fun a => .assign a.pipeline

/-- What has come of events: the members that have become attached have a hook each, and what the
members give has been noted. -/
structure Tally (as : List Attachment) (s : Session) (events : List Event) : Prop where
  numbers : (s.after events).host.numbers = List.range' 1 (opened events)
  hooks : (s.after events).host.hooks = (s.joined events).filterMap (hookOf? as)
  assignments : (s.after events).host.assignments =
    (s.givingFrom [] events).filterMap fun (i, n) => as[i]?.map fun a => (n, a.pipeline)
  pipelines : (s.after events).attachments.map (·.pipeline) = as.map (·.pipeline)
  nodup : (s.joined events).Nodup
  mem_joined : ∀ i, i ∈ s.joined events ↔ (s.after events).isAttached i
  length : (s.after events).host.hooks.length = (s.after events).attachments.countP (·.isAttached)

variable {as : List Attachment} {events : List Event} {e : Event}

/-- Only those who are there join. -/
theorem Tally.lt_length (ht : Tally as s events) (hi : i ∈ s.joined events) :
  i < as.length
  := by
  have hlength := congrArg List.length ht.pipelines
  rw [List.length_map, List.length_map] at hlength
  apply Nat.lt_of_not_le
  intro hle
  rw [ht.mem_joined, isAttached, List.getElem?_eq_none (hlength ▸ hle)] at hi
  cases hi

/-- There is a first document exactly if one has been opened. -/
theorem Tally.first? (ht : Tally as s events) :
  (s.after events).host.first? = if 0 < opened events then some 1 else none
  := by
  rw [Host.first?_eq, ht.numbers]
  cases opened events <;> rfl

/-- The documents are numbered in the order in which they are opened. -/
theorem Tally.nextNumber (ht : Tally as s events) :
  (s.after events).host.nextNumber = opened events + 1
  := by
  have hlength := congrArg List.length ht.numbers
  rw [Host.numbers, List.length_map, List.length_range'] at hlength
  rw [Host.nextNumber, hlength]

/-- Nothing that concerns the languages of documents. -/
theorem Tally.idle (ht : Tally as s events) (opening : e.isOpening = false)
    (joins : (s.after events).joins? e = none)
    (attachments : ((s.after events).after [e]).attachments = (s.after events).attachments)
    (numbers : ((s.after events).after [e]).host.numbers = (s.after events).host.numbers)
    (hooks : ((s.after events).after [e]).host.hooks = (s.after events).host.hooks)
    (assignments : ((s.after events).after [e]).host.assignments =
      (s.after events).host.assignments) :
  Tally as s (events ++ [e])
  := by
  have hopened : opened (events ++ [e]) = opened events := by simp [opened, opening]
  have hjoined : s.joined (events ++ [e]) = s.joined events := by simp [joined_concat, joins]
  have hgiving : s.givingFrom [] (events ++ [e]) = s.givingFrom [] events := by
    simp [givingFrom_concat, giving, opening, joins]
  rw [← after_append] at attachments numbers hooks assignments
  constructor
  · rw [numbers, hopened, ht.numbers]
  · rw [hooks, hjoined, ht.hooks]
  · rw [assignments, hgiving, ht.assignments]
  · rw [attachments, ht.pipelines]
  · rw [hjoined]
    apply ht.nodup
  · intro i
    rw [hjoined, isAttached, attachments]
    apply ht.mem_joined
  · rw [hooks, attachments, ht.length]

/-- The hooks run for a new document. -/
theorem Tally.opens (ht : Tally as s events) (opening : e.isOpening = true) {text : String}
    (joins : (s.after events).joins? e = none)
    (attachments : ((s.after events).after [e]).attachments = (s.after events).attachments)
    (host : ((s.after events).after [e]).host = (s.after events).host.openDocument text) :
  Tally as s (events ++ [e])
  := by
  have hopened : opened (events ++ [e]) = opened events + 1 := by simp [opened, opening]
  have hjoined : s.joined (events ++ [e]) = s.joined events := by simp [joined_concat, joins]
  have hgiving : s.givingFrom [] (events ++ [e]) =
      s.givingFrom [] events ++ (s.joined events).map (·, opened events + 1) := by
    simp [givingFrom_concat, giving, opening]
  rw [← after_append] at attachments host
  have hhooks : (s.after (events ++ [e])).host.hooks = (s.after events).host.hooks := by
    -- No member's hook adds another one.
    rw [host, Host.hooks_openDocument, ht.hooks, List.filterMap_filterMap]
    simp [hookOf?, Hook.installed?]
  constructor
  · rw [host, Host.numbers_openDocument, ht.numbers, ht.nextNumber, hopened, List.range'_1_concat,
      Nat.add_comm 1]
  · rw [hhooks, hjoined, ht.hooks]
  · rw [host, Host.assignments_openDocument, ht.assignments, ht.hooks, ht.nextNumber, hgiving,
      List.filterMap_append, List.filterMap_filterMap, List.filterMap_map, List.map_filterMap]
    congr 2
    funext i
    cases h : as[i]? <;> simp [hookOf?, Hook.assigned?, h]
  · rw [attachments, ht.pipelines]
  · rw [hjoined]
    apply ht.nodup
  · intro i
    rw [hjoined, isAttached, attachments]
    apply ht.mem_joined
  · rw [hhooks, attachments, ht.length]

/-- A member gives its language to the first document and adds a hook. -/
theorem Tally.joins (ht : Tally as s events) (opening : e.isOpening = false)
    (joins : (s.after events).joins? e = some i) (found : (s.after events).attachments[i]? = some a)
    (fresh : a.isAttached = false)
    (attachments : ((s.after events).after [e]).attachments =
      (s.after events).attachments.set i { a with isAttached := true })
    (host : ((s.after events).after [e]).host =
      (s.after events).host.performAll (a.setup (s.after events).host.first?)) :
  Tally as s (events ++ [e])
  := by
  have hopened : opened (events ++ [e]) = opened events := by simp [opened, opening]
  have hjoined : s.joined (events ++ [e]) = s.joined events ++ [i] := by
    simp [joined_concat, joins]
  have hgiving : s.givingFrom [] (events ++ [e]) =
      s.givingFrom [] events ++ if 0 < opened events then [(i, 1)] else [] := by
    simp [givingFrom_concat, giving, opening, joins]
  have hpipeline : as[i]?.map (·.pipeline) = some a.pipeline := by
    rw [← List.getElem?_map, ← ht.pipelines, List.getElem?_map, found]
    rfl
  obtain ⟨b, hb, hba⟩ := Option.map_eq_some_iff.mp hpipeline
  obtain ⟨hlt, hget⟩ := List.getElem?_eq_some_iff.mp found
  have hnew : i ∉ s.joined events := by
    rw [ht.mem_joined, isAttached, found]
    simp [fresh]
  rw [← after_append] at attachments host
  constructor
  · rw [host, Host.numbers_setup, ht.numbers, hopened]
  · rw [host, Host.hooks_setup, ht.hooks, hjoined, List.filterMap_append]
    simp [hookOf?, hb, hba]
  · rw [host, Host.assignments_setup, ht.assignments, ht.first?, hgiving, List.filterMap_append]
    split <;> simp [hb, hba]
  · have hlength : i < ((s.after events).attachments.map (·.pipeline)).length := by simpa using hlt
    have hsame : ((s.after events).attachments.map (·.pipeline))[i] = a.pipeline := by
      rw [List.getElem_map, hget]
    rw [attachments, List.map_set, ← hsame, List.set_getElem_self, ht.pipelines]
  · rw [hjoined, ← List.concat_eq_append]
    apply ht.nodup.concat hnew
  · intro j
    rw [hjoined, isAttached, attachments, List.getElem?_set, List.mem_append, List.mem_singleton,
      ht.mem_joined]
    by_cases hj : i = j
    · simp [← hj, hlt]
    · simp [Ne.symm hj, hj, isAttached]
  · rw [host, Host.hooks_setup, attachments, List.length_append, ht.length, List.countP_set hlt,
      hget]
    simp [fresh]

/-- In a new host, over all events, the tally is kept. -/
theorem tally_after {h : Host} (hh : h.IsNew) (fresh : ∀ a ∈ as, a.isAttached = false)
    (events : List Event) :
  Tally as (start h as) events
  := by
  induction events using List.reverseRecOn with
  | nil =>
    have hnone : ∀ i, (start h as).isAttached i = false := by
      intro i
      rw [isAttached, attachments_start]
      cases hi : as[i]? with
      | none => rfl
      | some a => apply fresh a (List.mem_of_getElem? hi)
    constructor
    · obtain rfl | rfl | rfl := hh <;> rfl
    · obtain rfl | rfl | rfl := hh <;> rfl
    · obtain rfl | rfl | rfl := hh <;> rfl
    · apply congrArg _ (attachments_start h as)
    · apply List.nodup_nil
    · intro i
      change i ∈ [] ↔ (start h as).isAttached i = true
      simp [hnone]
    · change h.hooks.length = (start h as).attachments.countP (·.isAttached)
      have hzero : as.countP (·.isAttached) = 0 := by
        apply List.countP_eq_zero.mpr
        intro a ha
        simp [fresh a ha]
      rw [attachments_start, hzero]
      obtain rfl | rfl | rfl := hh <;> rfl
  | append_singleton events e ih =>
    cases ((start h as).after events).effect e with
    | idle opening joins attachments numbers hooks assignments =>
      apply ih.idle opening joins attachments numbers hooks assignments
    | opens text opening joins attachments host => apply ih.opens opening joins attachments host
    | joins i a opening joins found fresh attachments host =>
      apply ih.joins opening joins found fresh attachments host

/-- The host of a session keeps its documents and their languages in order. -/
theorem kept_after {h : Host} (hh : h.IsNew) (as : List Attachment) (events : List Event) :
  ((start h as).after events).host.Kept
  := by
  have hvisit : ∀ (s : Session) i look, s.host.Kept → (s.visit i look).host.Kept := by
    intro s i look hk
    rw [host_visit]
    apply hk.performAll
  induction events using List.reverseRecOn with
  | nil => exact .of_isNew hh
  | append_singleton events e ih =>
    rw [after_append]
    cases e with
    | load => exact ih.load
    | openDocument text => exact ih.openDocument text
    | poll i => apply hvisit _ _ _ ih
    | attach i => apply hvisit _ _ _ ih

/-! ### Who gives languages to which documents -/

/-- When a document is opened, each who has joined gives it a language; else the one who joins gives
one to the first document. -/
theorem mem_giving_iff {earlier : List Event} {n : Nat} :
  (i, n) ∈ s.giving earlier e ↔
    if e.isOpening then i ∈ s.joined earlier ∧ n = opened earlier + 1
    else (s.after earlier).joins? e = some i ∧ n = 1 ∧ 0 < opened earlier
  := by
  unfold giving
  split
  next => simp [eq_comm]
  next =>
    split
    next hpos => simp [hpos, eq_comm]
    next hpos => simp [hpos]

/-- Nobody joins by opening a document. -/
theorem joins?_of_isOpening (he : e.isOpening = true) :
  s.joins? e = none
  := by
  cases e with
  | openDocument text => rfl
  | load | poll | attach => cases he

/-- Those who have joined did so by one of the events. -/
theorem mem_joined_iff {events : List Event} :
  i ∈ s.joined events ↔
    ∃ earlier e later, events = earlier ++ e :: later ∧ (s.after earlier).joins? e = some i
  := by
  constructor
  · intro h
    induction events using List.reverseRecOn with
    | nil => cases h
    | append_singleton events e ih =>
      rw [joined_concat, List.mem_append, Option.mem_toList] at h
      obtain h | h := h
      · obtain ⟨earlier, e', later, rfl, hjoins⟩ := ih h
        exact ⟨earlier, e', later ++ [e], by simp, hjoins⟩
      · exact ⟨events, e, [], rfl, h⟩
  · rintro ⟨earlier, e, later, rfl, hjoins⟩
    rw [joined_append, joined, hjoins]
    simp

/-- Only members that have become attached give languages, and they give them to documents that have
been opened. -/
theorem mem_joined_of_mem_givingFrom {n : Nat} (h : (i, n) ∈ s.givingFrom [] events) :
  i ∈ s.joined events ∧ 1 ≤ n ∧ n ≤ opened events
  := by
  induction events using List.reverseRecOn with
  | nil => cases h
  | append_singleton events e ih =>
    rw [givingFrom_concat, List.mem_append, List.nil_append] at h
    rw [joined_concat, List.mem_append, opened_append]
    obtain h | h := h
    · obtain ⟨hi, hpos, hle⟩ := ih h
      exact ⟨.inl hi, hpos, by omega⟩
    · rw [mem_giving_iff] at h
      split at h
      next hopening =>
        have hone : opened [e] = 1 := by simp [opened, hopening]
        exact ⟨.inl h.1, by omega, by omega⟩
      next => exact ⟨.inr (Option.mem_toList.mpr h.1), by omega, by omega⟩

/-- No member becomes attached twice. -/
theorem not_mem_joined_of_joins? (h : (s.joined (events ++ [e])).Nodup)
    (hjoins : (s.after events).joins? e = some i) :
  i ∉ s.joined events
  := by
  intro hi
  rw [joined_concat, hjoins] at h
  apply (List.nodup_append.mp h).2.2 i hi i (by simp) rfl

/-- Nobody gives a document a language twice, if nobody joins twice. -/
theorem nodup_givingFrom (h : ∀ events, (s.joined events).Nodup) (events : List Event) :
  (s.givingFrom [] events).Nodup
  := by
  induction events using List.reverseRecOn with
  | nil => exact List.nodup_nil
  | append_singleton events e ih =>
    rw [givingFrom_concat, List.nil_append]
    apply List.nodup_append.mpr
    refine ⟨ih, ?_, ?_⟩
    · unfold giving
      split
      next => apply (h events).map fun i j hij => (Prod.mk.inj hij).1
      next => split <;> cases (s.after events).joins? e <;> simp
    · rintro ⟨i, n⟩ hold _ hnew rfl
      obtain ⟨hi, -, hle⟩ := mem_joined_of_mem_givingFrom hold
      rw [mem_giving_iff] at hnew
      split at hnew
      next => omega
      next => apply not_mem_joined_of_joins? (h _) hnew.1 hi

/-- A member gives its language to the first document, if there is one when the member becomes
attached, and to all that are opened later. -/
theorem mem_givingFrom_iff (h : ∀ events, (s.joined events).Nodup) {earlier later : List Event}
    (hjoins : (s.after earlier).joins? e = some i) (n : Nat) :
  (i, n) ∈ s.givingFrom [] (earlier ++ e :: later) ↔
    n = 1 ∧ 0 < opened earlier ∨ opened earlier < n ∧ n ≤ opened (earlier ++ e :: later)
  := by
  induction later using List.reverseRecOn with
  | nil =>
    have hearlier : (i, n) ∉ s.givingFrom [] earlier := fun hmem =>
      not_mem_joined_of_joins? (h _) hjoins (mem_joined_of_mem_givingFrom hmem).1
    have hopening : e.isOpening = false := by
      apply Bool.eq_false_iff.mpr
      intro he
      rw [joins?_of_isOpening he] at hjoins
      cases hjoins
    have hone : opened [e] = 0 := by simp [opened, hopening]
    rw [givingFrom_concat, List.nil_append, List.mem_append, or_iff_right hearlier, mem_giving_iff,
      opened_append]
    simp only [hopening, hjoins]
    simp
    omega
  | append_singleton later e' ih =>
    have hmem : i ∈ s.joined (earlier ++ e :: later) :=
      mem_joined_iff.mpr ⟨earlier, e, later, rfl, hjoins⟩
    rw [← List.cons_append, ← List.append_assoc, givingFrom_concat, List.nil_append,
      List.mem_append, ih, mem_giving_iff, opened_append _ [e']]
    have hle : opened earlier ≤ opened (earlier ++ e :: later) := by
      rw [opened_append]
      apply Nat.le_add_right
    split
    next hopening =>
      have hone : opened [e'] = 1 := by simp [opened, hopening]
      rw [and_iff_right hmem]
      omega
    next hopening =>
      have hone : opened [e'] = 0 := by simp [opened, hopening]
      have hnot : (s.after (earlier ++ e :: later)).joins? e' ≠ some i := fun hagain =>
        not_mem_joined_of_joins? (h _) hagain hmem
      rw [iff_false_intro hnot]
      omega

/-! ### The log -/

/-- With one member, the documents have its language that it has given the language to. -/
theorem Tally.language (ht : Tally [a] s events) (hk : (s.after events).host.Kept) :
  ∀ d ∈ (s.after events).host.documents,
    d.language = if (0, d.number) ∈ s.givingFrom [] events then some a.pipeline else none
  := by
  have hget : ∀ {i b}, [a][i]? = some b → i = 0 ∧ b = a := by
    intro i b hb
    obtain ⟨hi, rfl⟩ := List.getElem?_eq_some_iff.mp hb
    obtain rfl := Nat.lt_one_iff.mp hi
    exact ⟨rfl, rfl⟩
  have hlog : ∀ e ∈ (s.after events).host.assignments, e.2 = a.pipeline := by
    intro e he
    rw [ht.assignments] at he
    obtain ⟨⟨i, n⟩, -, heq⟩ := List.mem_filterMap.mp he
    obtain ⟨b, hb, rfl⟩ := Option.map_eq_some_iff.mp heq
    rw [(hget hb).2]
  have hmem : ∀ n, n ∈ (s.after events).host.assignments.map Prod.fst ↔
      (0, n) ∈ s.givingFrom [] events := by
    intro n
    rw [ht.assignments, List.map_filterMap, List.mem_filterMap]
    constructor
    · rintro ⟨⟨i, m⟩, hgiving, heq⟩
      rw [Option.map_map] at heq
      obtain ⟨b, hb, rfl⟩ := Option.map_eq_some_iff.mp heq
      obtain ⟨rfl, -⟩ := hget hb
      exact hgiving
    · intro hgiving
      exact ⟨(0, n), hgiving, rfl⟩
  intro d hd
  rw [hk.language_of_forall hlog d hd]
  simp only [hmem]

/-- The languages that documents get are those that the members give them.  A member gives its
language to the first document, if there is one when the member becomes attached, and to all
documents that are opened later, once to each.  Every attached member has one hook.  With a single
member, the other documents have no language. -/
theorem assignments_after (h : Host) (hh : h.IsNew) (as : List Attachment)
    (fresh : ∀ a ∈ as, a.isAttached = false) (events : List Event) :
  let s := start h as
  let last := s.after events
  last.host.numbers = List.range' 1 (opened events) ∧
  last.host.assignments =
    (s.givingFrom [] events).filterMap (fun (i, n) => as[i]?.map fun a => (n, a.pipeline)) ∧
  (s.givingFrom [] events).Nodup ∧
  (∀ earlier e later i, events = earlier ++ e :: later → (s.after earlier).joins? e = some i →
    ∀ n, (i, n) ∈ s.givingFrom [] events ↔
      n = 1 ∧ 0 < opened earlier ∨ opened earlier < n ∧ n ≤ opened events) ∧
  last.host.hooks.length = last.attachments.countP (·.isAttached) ∧
  ∀ a, as = [a] →
    ((∀ i, last.isAttached i = false) ∧ ∀ d ∈ last.host.documents, d.language = none) ∨
    ∃ earlier e later, events = earlier ++ e :: later ∧ (s.after earlier).joins? e = some 0 ∧
      ∀ d ∈ last.host.documents, d.language =
        if d.number = 1 ∨ opened earlier < d.number then some a.pipeline else none
  := by
  intro s last
  have tally : ∀ events, Tally as s events := tally_after hh fresh
  have nodup : ∀ events, (s.joined events).Nodup := fun events => (tally events).nodup
  refine ⟨(tally events).numbers, (tally events).assignments, nodup_givingFrom nodup events, ?_,
    (tally events).length, ?_⟩
  · rintro earlier e later i rfl hjoins n
    apply mem_givingFrom_iff nodup hjoins
  · rintro a rfl
    have hlanguage := (tally events).language (kept_after hh [a] events)
    by_cases hzero : 0 ∈ s.joined events
    · right
      obtain ⟨earlier, e, later, rfl, hjoins⟩ := mem_joined_iff.mp hzero
      refine ⟨earlier, e, later, rfl, hjoins, ?_⟩
      intro d hd
      have hnumber : d.number ∈ last.host.numbers := List.mem_map_of_mem hd
      rw [(tally _).numbers, List.mem_range'_1] at hnumber
      have hiff : (0, d.number) ∈ s.givingFrom [] (earlier ++ e :: later) ↔
          d.number = 1 ∨ opened earlier < d.number := by
        rw [mem_givingFrom_iff nodup hjoins]
        omega
      rw [hlanguage d hd]
      simp only [hiff]
    · left
      constructor
      · intro i
        apply Bool.eq_false_iff.mpr
        intro hi
        have hjoined := ((tally events).mem_joined i).mpr hi
        obtain rfl := Nat.lt_one_iff.mp ((tally events).lt_length hjoined)
        apply hzero hjoined
      · intro d hd
        rw [hlanguage d hd, if_neg]
        exact fun hmem => hzero (mem_joined_of_mem_givingFrom hmem).1

/-- One member sets everything up before there is a document, and the other one looks at the host
when there are two. -/
theorem assignments_after_late :
  let a : Attachment := { registry := .empty, pipeline := "pipeline", shell := "shell" }
  let b : Attachment := { registry := .empty, pipeline := "other", shell := "shell" }
  let events : List Event :=
    [.attach 1, .openDocument "a", .poll 0, .load, .openDocument "b", .poll 0, .openDocument "c",
      .attach 1]
  Host.absent.IsNew ∧ (∀ c ∈ [a, b], c.isAttached = false) ∧
    ((start .absent [a, b]).after events).host.assignments =
      [(1, "other"), (2, "other"), (1, "pipeline"), (3, "other"), (3, "pipeline")]
  := by
  intro a b events
  have hnew : Host.absent.IsNew := .inr (.inl rfl)
  have fresh : ∀ c ∈ [a, b], c.isAttached = false := by simp [a, b]
  refine ⟨hnew, fresh, ?_⟩
  rw [(assignments_after .absent hnew [a, b] fresh events).2.1]
  decide

end Highlight.Session
