import Highlight.Editor.Attachment

/-!
# Visits to a host

A visit of an attachment to a host either asks some questions, which changes nothing, or sets up
everything at once.
-/

namespace Highlight

/-! ### The calls of a visit -/

/-- Of the calls that a host gets, only those matter that tell it something. -/
theorem Host.performAll_filter (h : Host) (calls : List Call) :
  h.performAll (calls.filter (!·.isQuestion)) = h.performAll calls
  := by
  induction calls generalizing h with
  | nil => rfl
  | cons c calls ih =>
    rw [List.filter_cons]
    split
    · apply ih
    · -- A question leaves the host as it is.
      have hc : h.perform c = h := by cases c <;> simp_all [Call.isQuestion, Host.perform]
      change _ = (h.perform c).performAll calls
      rw [hc, ih]

/-- A visit without changes leaves the host as it is. -/
theorem Visit.performAll_of_changes {v : Visit} (hv : v.changes = []) (h : Host) :
  h.performAll v.calls = h
  := by
  rw [← Host.performAll_filter, ← Visit.changes, hv]
  rfl

/-- The number of the first document. -/
def Host.first? (h : Host) : Option Nat :=
  h.documents.head?.map (·.number)

/-- A look at the host has a final answer: the host has loaded, and it lacks the interface for
languages or has a document. -/
def Host.isDecisive (h : Host) : Bool :=
  h.isPresent && (!h.hasEditorApi || !h.documents.isEmpty)

namespace Attachment

variable {a : Attachment} {h : Host}

/-- What a host is told when everything is set up: the languages of shell scripts and of pipeline
definitions, the language of the first document, if there is one, and that of the documents to
come. -/
def setup (a : Attachment) (first? : Option Nat) : List Call :=
  [.registerLanguage a.shell, .setTokenizer a.shell ⟨a.registry, a.shell⟩,
    .setConfiguration a.shell .hashComments,
    .registerLanguage a.pipeline, .setTokenizer a.pipeline ⟨a.registry, a.pipeline⟩,
    .setConfiguration a.pipeline .hashComments] ++
  (first?.map fun number => Call.setLanguage number a.pipeline).toList ++
  [.addHook (.assign a.pipeline)]

/-- The changes among the calls of a setup are those of the setup. -/
theorem filter_setupCalls (a : Attachment) (h : Host) :
  (a.setupCalls h).filter (!·.isQuestion) = a.setup h.first?
  := by
  unfold setupCalls setup languageCalls Host.first?
  cases h.documents.head? <;> rfl

/-! ### What a visit comes to -/

/-- What a visit can come to. -/
inductive Visits (a : Attachment) (h : Host) (v : Visit) : Prop where
  /-- Nothing changes. -/
  | idle (attachment : v.attachment = a) (changes : v.changes = [])
      (answer : v.answer = .attached ↔ a.isAttached = true)
  /-- Everything is set up. -/
  | setUp (fresh : a.isAttached = false)
      (attachment : v.attachment = { a with isAttached := true })
      (changes : v.changes = a.setup h.first?) (answer : v.answer = .attached)

/-- Attaching what is attached does nothing. -/
theorem attach_of_attached (ha : a.isAttached = true) (h : Host) :
  a.attach h = ⟨[], a, .attached⟩
  := by
  unfold attach answer
  rw [if_pos ha, if_pos ha]

/-- Attaching sets up the host, whatever its state. -/
theorem attach_of_fresh (ha : a.isAttached = false) (h : Host) :
  a.attach h = ⟨a.setupCalls h, { a with isAttached := true }, .attached⟩
  := by
  unfold attach answer
  rw [ha]
  rfl

theorem attachment_attach (a : Attachment) (h : Host) :
  (a.attach h).attachment = { a with isAttached := true }
  := by
  cases ha : a.isAttached with
  | true => rw [attach_of_attached ha, ← ha]
  | false => rw [attach_of_fresh ha]

/-- Attaching is a visit. -/
theorem visits_attach (a : Attachment) (h : Host) :
  a.Visits h (a.attach h)
  := by
  cases ha : a.isAttached with
  | true =>
    rw [attach_of_attached ha]
    refine .idle rfl rfl ?_
    simp [ha]
  | false =>
    rw [attach_of_fresh ha]
    refine .setUp ha rfl ?_ rfl
    apply filter_setupCalls

/-- Looking after being attached does nothing. -/
theorem poll_of_attached (ha : a.isAttached = true) (h : Host) :
  a.poll h = ⟨[], a, .attached⟩
  := by
  unfold poll
  rw [if_pos ha]

/-- A host that is not decisive has to be looked at again. -/
theorem poll_of_not_decisive (ha : a.isAttached = false) (hh : h.isDecisive = false) :
  (a.poll h).attachment = a ∧ (a.poll h).changes = [] ∧ (a.poll h).answer = .waiting
  := by
  unfold poll
  unfold Host.isDecisive at hh
  cases hp : h.isPresent <;> cases hi : h.hasEditorApi <;> cases hd : h.documents.isEmpty <;>
    simp_all [Visit.changes, Call.isQuestion]

/-- A decisive host without the interface for languages is of no use. -/
theorem poll_of_no_api (ha : a.isAttached = false) (hh : h.isDecisive = true)
    (hi : h.hasEditorApi = false) :
  a.poll h = ⟨[.isPresent, .hasEditorApi], a, .failed .editorApiUnavailable⟩
  := by
  obtain ⟨hp, -⟩ := Bool.and_eq_true_iff.mp hh
  unfold poll
  rw [ha, hp, hi]
  rfl

/-- On a decisive host with the interface for languages, everything is set up. -/
theorem poll_of_api (ha : a.isAttached = false) (hh : h.isDecisive = true)
    (hi : h.hasEditorApi = true) :
  a.poll h = ⟨[.isPresent, .hasEditorApi, .documents] ++ a.setupCalls h,
    { a with isAttached := true }, .attached⟩
  := by
  obtain ⟨hp, hd⟩ := Bool.and_eq_true_iff.mp hh
  rw [hi, Bool.not_true, Bool.false_or, Bool.not_eq_true'] at hd
  unfold poll
  rw [ha, hp, hi, hd, attach_of_fresh ha]
  rfl

/-- A look answers that it is attached, that it waits, or that there is no editor. -/
theorem answer_poll (a : Attachment) (h : Host) :
  (a.poll h).answer = .attached ∨ (a.poll h).answer = .waiting ∨
    (a.poll h).answer = .failed .editorApiUnavailable
  := by
  cases ha : a.isAttached with
  | true => exact .inl (by rw [poll_of_attached ha])
  | false =>
    cases hh : h.isDecisive with
    | false => exact .inr (.inl (poll_of_not_decisive ha hh).2.2)
    | true =>
      cases hi : h.hasEditorApi with
      | false => exact .inr (.inr (by rw [poll_of_no_api ha hh hi]))
      | true => exact .inl (by rw [poll_of_api ha hh hi])

/-- Looking is a visit. -/
theorem visits_poll (a : Attachment) (h : Host) :
  a.Visits h (a.poll h)
  := by
  cases ha : a.isAttached with
  | true =>
    rw [poll_of_attached ha]
    refine .idle rfl rfl ?_
    simp [ha]
  | false =>
    cases hh : h.isDecisive with
    | false =>
      obtain ⟨hattachment, hchanges, hanswer⟩ := poll_of_not_decisive ha hh
      refine .idle hattachment hchanges ?_
      simp [hanswer, ha]
    | true =>
      cases hi : h.hasEditorApi with
      | false =>
        rw [poll_of_no_api ha hh hi]
        refine .idle rfl rfl ?_
        simp [ha]
      | true =>
        rw [poll_of_api ha hh hi]
        refine .setUp ha rfl ?_ rfl
        rw [Visit.changes, List.filter_append, filter_setupCalls]
        rfl

end Attachment

end Highlight
