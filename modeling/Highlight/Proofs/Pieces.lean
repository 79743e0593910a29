import Highlight.Builtin.Pipeline
import Highlight.Builtin.Shell
import Highlight.Proofs.Greedy
import Highlight.Proofs.Parts
import Highlight.Proofs.Sorting

/-!
# The pieces of the built-in patterns

A comment goes to the end of the line or to a newline, and rules that take the whole line leave
nothing to be sorted in another mode.
-/

namespace Highlight

open Pattern Pattern.Form

/-! ### The end of the line -/

/-- The end of the line. -/
def Pattern.Edge.lineEnd : Edge where
  Holds c := c.rest = []
  byAssertion a := a = .textEnd
  byNext _ := false
  byLast _ := false
  holds_of_assertion := by
    intro a c ha hc
    rw [of_decide_eq_true ha] at hc
    apply List.isEmpty_iff.mp hc
  holds_of_next := nofun
  holds_past := nofun

/-- Rules that change the mode only at the end of the line are steady. -/
theorem Rule.steady_of_closesAt {rules : List Rule}
    (h : ∀ r ∈ rules, r.action ≠ .stay → r.closesAt Edge.lineEnd) :
  Steady rules
  := by
  intro r hr haction c m hm
  obtain ⟨a, b, ha, hab, -, hstop, hmove⟩ := (matches_of_matchAt hm).exists_token
  rw [hmove]
  apply holds_tokenStop (h r hr haction) hm (ha.trans hab) hstop

/-- A pattern is determined by its form. -/
theorem Pattern.eq_ofForm (p : Pattern) :
  p = ofForm p.form
  := by
  obtain ⟨form, start, steps, laidOut⟩ := p
  simp [ofForm, laidOut]

namespace Builtin

variable {r : Rule} {c b : Cursor} {m : RuleMatch}

/-- The rule classifies a hash character and what follows it. -/
def isComment (r : Rule) : Bool :=
  r.pattern.form = hashComment && r.group = none

/-- A comment ends where a newline follows, or the line ends. -/
theorem head_of_isComment (h : isComment r) (hm : r.matchAt c = some m) (hcb : c ≤ b)
    (hb : m.tokenStop = b.offset) :
  ∀ y ∈ b.rest.head?, y = '\n'
  := by
  obtain ⟨hform, hgroup⟩ := Bool.and_eq_true_iff.mp h
  have hpattern : r.pattern = setThenMany (.single '#') .withinLine := by
    rw [r.pattern.eq_ofForm, of_decide_eq_true hform]
    rfl
  obtain ⟨whole, hwhole, htoken, -⟩ := Rule.exists_reading hm
  rw [hpattern] at hwhole
  obtain ⟨d, hcd, hstop, hhead⟩ := matchAt_setThenMany hwhole
  have htokenStop : m.tokenStop = d.offset := by
    rw [Rule.tokenSpan?, of_decide_eq_true hgroup] at htoken
    rw [← hstop]
    apply (congrArg Span.stop (Option.some.inj htoken)).symm
  rw [Cursor.eq_of_offset_eq hcb hcd (hb.symm.trans htokenStop)]
  intro y hy
  rw [hy, Option.any_some] at hhead
  apply (contains_single '\n' y).mp
  simpa [CharSet.withinLine, CharSet.contains] using hhead

/-- In pipeline definitions only the opener changes the mode, and it reads up to the end of the
line. -/
theorem steady_pipeline :
  Rule.Steady Pipeline.rules
  := Rule.steady_of_closesAt (by decide +kernel)

theorem steady_shell :
  Rule.Steady Shell.rules
  := Rule.steady_of_closesAt (by decide +kernel)

end Builtin

end Highlight
