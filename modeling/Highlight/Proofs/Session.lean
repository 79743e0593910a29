import Highlight.Proofs.Visit

/-!
# Sessions

Any number of attachments share a host and visit it in any order, while the host changes.  Each of
them sets everything up once at most, in the course of one visit.
-/

namespace Highlight

/-- An attachment with all the calls that it has made. -/
structure Member where
  attachment : Attachment
  calls : List Call := []
deriving DecidableEq, Repr

/-- The calls of a member that have told the host something. -/
def Member.changes (m : Member) : List Call :=
  m.calls.filter (!·.isQuestion)

/-- Attachments that share a host. -/
structure Session where
  host : Host
  members : List Member
deriving DecidableEq, Repr

namespace Session

/-- A step of a session. -/
inductive Step where
  /-- The host changes in some way. -/
  | host (change : Host → Host)
  /-- A member looks at the host. -/
  | poll (i : Nat)
  /-- A member sets everything up, unless it has done so. -/
  | attach (i : Nat)

namespace Step

/-- The host loads. -/
def load : Step := host Host.load

/-- The host opens a document, for which its hooks run. -/
def openDocument (text : String) : Step := host (·.openDocument text)

/-- Somebody else calls the host. -/
def call (c : Call) : Step := host (·.perform c)

/-- The step is a visit of a member to the host. -/
def IsVisit (i : Nat) (st : Step) : Prop :=
  st = poll i ∨ st = attach i

end Step

/-- The session in which no member has visited the host. -/
def start (h : Host) (as : List Attachment) : Session :=
  ⟨h, as.map fun a => ⟨a, []⟩⟩

/-- Lets a member visit the host. -/
def visit (s : Session) (i : Nat) (look : Attachment → Host → Visit) : Session :=
  match s.members[i]? with
  | none => s
  | some m =>
    let v := look m.attachment s.host
    { host := s.host.performAll v.calls
      members := s.members.set i ⟨v.attachment, m.calls ++ v.calls⟩ }

/-- The calls that the host gets from a visit of a member. -/
def visitCalls (s : Session) (i : Nat) (look : Attachment → Host → Visit) : List Call :=
  (s.members[i]?.map fun m => (look m.attachment s.host).calls).getD []

def step (s : Session) : Step → Session
  | .host change => { s with host := change s.host }
  | .poll i => s.visit i Attachment.poll
  | .attach i => s.visit i Attachment.attach

def run (s : Session) (steps : List Step) : Session :=
  steps.foldl step s

/-- A member's attachment, and what the member has told the host. -/
def record? (s : Session) (i : Nat) : Option (Attachment × List Call) :=
  s.members[i]?.map fun m => (m.attachment, m.changes)

/-- What a member says if it looks at the host now. -/
def answer? (s : Session) (i : Nat) : Option Answer :=
  s.members[i]?.map fun m => (m.attachment.poll s.host).answer

variable {s : Session} {i : Nat} {a : Attachment} {changes : List Call}

/-! ### Steps -/

/-- At the start nothing has been called. -/
theorem record?_start {as : List Attachment} (h : Host) (ha : as[i]? = some a) :
  (start h as).record? i = some (a, [])
  := by
  simp [record?, start, ha, Member.changes]

/-- A visit changes the host by its calls. -/
theorem host_visit (s : Session) (i : Nat) (look : Attachment → Host → Visit) :
  (s.visit i look).host = s.host.performAll (s.visitCalls i look)
  := by
  rw [visit, visitCalls]
  cases s.members[i]? <;> rfl

/-- A visit is recorded for the member that makes it. -/
theorem record?_visit (h : s.record? i = some (a, changes)) (look : Attachment → Host → Visit) :
  (s.visit i look).record? i =
    some ((look a s.host).attachment, changes ++ (look a s.host).changes)
  := by
  obtain ⟨m, hm, heq⟩ := Option.map_eq_some_iff.mp h
  obtain ⟨rfl, rfl⟩ := Prod.mk.inj heq
  obtain ⟨hi, -⟩ := List.getElem?_eq_some_iff.mp hm
  rw [visit, hm, record?, List.getElem?_set_self hi, Option.map_some, Member.changes,
    List.filter_append]
  rfl

/-- The other members do not take part in a visit. -/
theorem record?_visit_ne {j : Nat} (h : j ≠ i) (look : Attachment → Host → Visit) :
  (s.visit j look).record? i = s.record? i
  := by
  unfold visit
  split
  · rfl
  · simp [record?, List.getElem?_set_ne h]

/-- A visit leaves a member as it is, or it is the member's own and sets up everything. -/
theorem record?_visit_cases (h : s.record? i = some (a, changes)) (j : Nat)
    {look : Attachment → Host → Visit} (hlook : ∀ h, a.Visits h (look a h)) :
  (s.visit j look).record? i = some (a, changes) ∨
    a.isAttached = false ∧ j = i ∧
      (s.visit j look).record? i =
        some ({ a with isAttached := true }, changes ++ a.setup s.host.first?)
  := by
  by_cases hj : j = i
  · subst hj
    rw [record?_visit h]
    cases hlook s.host with
    | idle hattachment hchanges =>
      left
      rw [hattachment, hchanges, List.append_nil]
    | setUp fresh hattachment hchanges =>
      right
      rw [hattachment, hchanges]
      exact ⟨fresh, rfl, rfl⟩
  · left
    rw [record?_visit_ne hj, h]

/-- What one step does to a member: it goes on as it is, or it visits the host and sets up
everything. -/
theorem record?_step (h : s.record? i = some (a, changes)) (st : Step) :
  (s.step st).record? i = some (a, changes) ∨
    a.isAttached = false ∧ st.IsVisit i ∧
      (s.step st).record? i =
        some ({ a with isAttached := true }, changes ++ a.setup s.host.first?)
  := by
  cases st with
  | host change => exact .inl h
  | poll j =>
    obtain hsame | ⟨fresh, rfl, hrecord⟩ := record?_visit_cases h j a.visits_poll
    · exact .inl hsame
    · exact .inr ⟨fresh, .inl rfl, hrecord⟩
  | attach j =>
    obtain hsame | ⟨fresh, rfl, hrecord⟩ := record?_visit_cases h j a.visits_attach
    · exact .inl hsame
    · exact .inr ⟨fresh, .inr rfl, hrecord⟩

/-! ### Runs -/

/-- A member that has set everything up does nothing any more. -/
theorem record?_run_of_attached (h : s.record? i = some (a, changes))
    (ha : a.isAttached = true) (steps : List Step) :
  (s.run steps).record? i = some (a, changes)
  := by
  induction steps generalizing s with
  | nil => exact h
  | cons st steps ih =>
    apply ih (s := s.step st)
    obtain hstep | ⟨fresh, -⟩ := record?_step h st
    · apply hstep
    · simp [ha] at fresh

/-- A member goes on as it is until it sets everything up, in one step. -/
theorem record?_run (h : s.record? i = some (a, changes)) (steps : List Step) :
  (s.run steps).record? i = some (a, changes) ∨
    ∃ earlier st later, steps = earlier ++ st :: later ∧ st.IsVisit i ∧
      (s.run earlier).record? i = some (a, changes) ∧
      ∀ more, (s.run (earlier ++ st :: more)).record? i =
        some ({ a with isAttached := true }, changes ++ a.setup (s.run earlier).host.first?)
  := by
  induction steps generalizing s with
  | nil => exact .inl h
  | cons st steps ih =>
    obtain hstep | ⟨-, hvisit, hstep⟩ := record?_step h st
    · -- The first step changes nothing for the member.
      obtain hrest | ⟨earlier, st', later, rfl, hvisit, hrest⟩ := ih hstep
      · exact .inl hrest
      · exact .inr ⟨st :: earlier, st', later, rfl, hvisit, hrest⟩
    · right
      refine ⟨[], st, steps, rfl, hvisit, h, ?_⟩
      intro more
      apply record?_run_of_attached hstep rfl

/-- What a look at the host says of the member after it. -/
theorem answer?_poll (h : s.record? i = some (a, changes)) :
  ∃ answer b later, s.answer? i = some answer ∧
    (s.step (.poll i)).record? i = some (b, later) ∧
    (answer = .attached ↔ b.isAttached = true) ∧
    (answer ≠ .attached → (answer = .waiting ∨ answer = .failed .editorApiUnavailable) ∧
      a.isAttached = false ∧ b = a ∧ later = changes ∧ (s.step (.poll i)).host = s.host)
  := by
  obtain ⟨m, hm, heq⟩ := Option.map_eq_some_iff.mp h
  obtain ⟨rfl, rfl⟩ := Prod.mk.inj heq
  refine ⟨_, _, _, by rw [answer?, hm]; rfl, record?_visit h _, ?_⟩
  cases m.attachment.visits_poll s.host with
  | idle hattachment hchanges hanswer =>
    rw [hattachment, hchanges, List.append_nil]
    refine ⟨hanswer, fun hne => ⟨?_, ?_, rfl, rfl, ?_⟩⟩
    · apply (m.attachment.answer_poll s.host).resolve_left hne
    · simpa [hanswer] using hne
    · rw [step, visit, hm]
      apply Visit.performAll_of_changes hchanges
  | setUp fresh hattachment hchanges hanswer => simp [hattachment, hanswer]

/-- A member that starts afresh has told the host nothing until it sets everything up.  It does so
once at most, in the course of a single visit, and stays attached from then on, whatever happens
to the host and whatever the other members do.  If it looks at the host at any time and does not
answer that it is attached, it has told the host nothing and goes on as before. -/
theorem runs_set_up_once (h : Host) (as : List Attachment) (i : Nat) (a : Attachment)
    (ha : as[i]? = some a) (fresh : a.isAttached = false) (steps : List Step) :
  let s := (start h as).run steps
  (s.record? i = some (a, []) ∨
    ∃ earlier st later, steps = earlier ++ st :: later ∧ (st = .poll i ∨ st = .attach i) ∧
      ((start h as).run earlier).record? i = some (a, []) ∧
      ∀ more, ((start h as).run (earlier ++ st :: more)).record? i =
        some ({ a with isAttached := true },
          a.setup ((start h as).run earlier).host.first?)) ∧
  (∃ changes, (s.step (.attach i)).record? i = some ({ a with isAttached := true }, changes)) ∧
  ∃ answer b changes, s.answer? i = some answer ∧
    (s.step (.poll i)).record? i = some (b, changes) ∧
    (answer = .attached ↔ b.isAttached = true) ∧
    (answer ≠ .attached → (answer = .waiting ∨ answer = .failed .editorApiUnavailable) ∧
      b = a ∧ changes = [] ∧ (s.step (.poll i)).host = s.host)
  := by
  intro s
  have hrun := record?_run (record?_start h ha) steps
  have hnow : ∃ b changes, s.record? i = some (b, changes) ∧
      { b with isAttached := true } = { a with isAttached := true } ∧
      (b.isAttached = false → b = a ∧ changes = []) := by
    obtain hwaits | ⟨earlier, st, later, rfl, -, -, hrecord⟩ := hrun
    · exact ⟨a, [], hwaits, rfl, fun _ => ⟨rfl, rfl⟩⟩
    · exact ⟨_, _, hrecord later, rfl, fun hb => Bool.noConfusion hb⟩
  obtain ⟨b, changes, hrecord, hb, hwaits⟩ := hnow
  refine ⟨hrun, ?_, ?_⟩
  · have hattach := record?_visit hrecord Attachment.attach
    rw [Attachment.attachment_attach, hb] at hattach
    exact ⟨_, hattach⟩
  · obtain ⟨answer, c, later, hanswer, hstep, hiff, hidle⟩ := answer?_poll hrecord
    refine ⟨answer, c, later, hanswer, hstep, hiff, ?_⟩
    intro hne
    obtain ⟨hcases, hfresh, rfl, rfl, hhost⟩ := hidle hne
    obtain ⟨rfl, rfl⟩ := hwaits hfresh
    exact ⟨hcases, rfl, rfl, hhost⟩

/-- Two attachments take turns on a host that loads late.  The second one attaches before there is
any document, so that its hook has run on the first document when the first one attaches. -/
theorem runs_set_up_once_shared :
  let a : Attachment := { registry := .empty, pipeline := "pipeline", shell := "shell" }
  let b : Attachment := { registry := .empty, pipeline := "other", shell := "shell" }
  let steps : List Step :=
    [.poll 0, .load, .call (.registerLanguage "shell"), .poll 0, .attach 1,
      .openDocument "trigger: none", .poll 0, .attach 0]
  let s := (start .absent [a, b]).run steps
  [a, b][0]? = some a ∧ a.isAttached = false ∧
    ∀ more, (s.run more).record? 0 = some ({ a with isAttached := true }, a.setup (some 1))
  := by
  intro a b steps s
  refine ⟨rfl, rfl, fun more => ?_⟩
  have hnow : s.record? 0 = some ({ a with isAttached := true }, a.setup (some 1)) := by decide
  obtain ⟨hwaits | ⟨earlier, st, later, hsteps, -, -, hset⟩, -⟩ :=
    runs_set_up_once .absent [a, b] 0 a rfl rfl steps
  · exact absurd (hnow.symm.trans hwaits) (by decide)
  · have hlater := hset later
    have hmore := hset (later ++ more)
    rw [← hsteps] at hlater
    rw [← List.cons_append, ← List.append_assoc, ← hsteps, run, List.foldl_append] at hmore
    rw [← hnow]
    apply hmore.trans hlater.symm

end Session

end Highlight
