import Mathlib.Data.List.Infix
import Highlight.Text.Lines

/-!
# Lines put together

A text without an open line can be cut from what follows it: its lines are those of the part
before the cut and of the part behind it.  The lines of a text give the text back, up to a newline
at its end and to the carriage returns before newlines.
-/

namespace Highlight.Text

/-- No line of the text is left open. -/
def IsClosed (text : List Char) : Prop :=
  text = [] ∨ text.getLast? = some '\n'

instance (text : List Char) : Decidable (IsClosed text) :=
  inferInstanceAs (Decidable (_ ∨ _))

/-- The text that has the lines, each of them with a newline behind it. -/
def unlines (lines : List (List Char)) : List Char :=
  lines.flatMap (· ++ ['\n'])

variable {collected text : List Char} {c : Char}

/-- A newline ends the line that has been collected. -/
@[simp]
theorem linesFrom_newline (collected text : List Char) :
  linesFrom collected ('\n' :: text) = endLine collected :: linesFrom [] text
  := rfl

theorem linesFrom_of_ne (hc : c ≠ '\n') (collected text : List Char) :
  linesFrom collected (c :: text) = linesFrom (c :: collected) text
  := by
  rw [linesFrom]
  intro h
  exact absurd h hc

/-! ### Lines of two parts -/

/-- The cut is behind a newline, at which no characters are collected. -/
theorem linesFrom_append (collected front back : List Char) :
  linesFrom collected (front ++ '\n' :: back) =
    linesFrom collected (front ++ ['\n']) ++ linesFrom [] back
  := by
  induction front generalizing collected with
  | nil => rfl
  | cons c front ih =>
    rw [List.cons_append, List.cons_append]
    by_cases hc : c = '\n'
    · subst hc
      rw [linesFrom_newline, linesFrom_newline, ih, List.cons_append]
    · rw [linesFrom_of_ne hc, linesFrom_of_ne hc, ih]

/-- The lines of two texts are those of the first and those of the second, if the first ends with
its last line. -/
theorem lines_append {front : String} (h : IsClosed front.toList) (back : String) :
  lines (front ++ back) = lines front ++ lines back
  := by
  unfold lines
  rw [String.toList_append]
  obtain hnil | hlast := h
  · rw [hnil]
    rfl
  · obtain ⟨text, htext⟩ := List.getLast?_eq_some_iff.mp hlast
    rw [htext, List.append_assoc, List.singleton_append, linesFrom_append]

/-! ### The text of lines -/

theorem isClosed_append_newline (front text : List Char) :
  IsClosed (front ++ '\n' :: text) ↔ IsClosed text
  := by
  cases text with
  | nil => simp [IsClosed]
  | cons c text => simp [IsClosed, List.getLast?_append, List.getLast?_cons]

/-- A carriage return is read before the newline behind it, so a line ends with none if the text
has none before a newline. -/
theorem endLine_of_not_infix (h : ¬['\r', '\n'] <:+: collected.reverse ++ '\n' :: text) :
  endLine collected = collected.reverse
  := by
  rw [endLine.eq_def]
  split
  next collected =>
    exfalso
    apply h
    use collected.reverse, text
    simp
  next => rfl

/-- The induction is on the text that is left to read; what is collected has no newline yet. -/
theorem unlines_linesFrom (hcollected : '\n' ∉ collected)
    (h : ¬['\r', '\n'] <:+: collected.reverse ++ text) :
  unlines (linesFrom collected text) =
    if IsClosed (collected.reverse ++ text) then collected.reverse ++ text
    else collected.reverse ++ text ++ ['\n']
  := by
  induction text generalizing collected with
  | nil =>
    rw [List.append_nil, linesFrom]
    split
    next hnil =>
      subst hnil
      rfl
    next hne =>
      have hopen : ¬IsClosed collected.reverse := by
        rintro (hnil | hlast)
        · exact hne (List.reverse_eq_nil_iff.mp hnil)
        · apply hcollected
          rw [← List.mem_reverse]
          apply List.mem_of_getLast? hlast
      rw [if_neg hopen]
      apply List.flatMap_singleton
  | cons c text ih =>
    by_cases hc : c = '\n'
    · subst hc
      have hrest : ¬['\r', '\n'] <:+: ([] : List Char).reverse ++ text := by
        intro hinfix
        apply h
        apply hinfix.trans
        use collected.reverse ++ ['\n'], []
        simp
      have hlines := ih List.not_mem_nil hrest
      rw [linesFrom_newline, unlines, List.flatMap_cons, ← unlines, hlines,
        endLine_of_not_infix h]
      by_cases hclosed : IsClosed text <;>
        simp [isClosed_append_newline, hclosed]
    · rw [linesFrom_of_ne hc]
      have hmove : collected.reverse ++ c :: text = (c :: collected).reverse ++ text := by simp
      rw [hmove] at h ⊢
      apply ih _ h
      rw [List.mem_cons, not_or]
      exact ⟨Ne.symm hc, hcollected⟩

/-- A text without carriage returns before newlines is the text of its lines, if its last line is
closed. -/
theorem unlines_lines {text : String} (h : ¬['\r', '\n'] <:+: text.toList) :
  unlines (lines text) =
    if IsClosed text.toList then text.toList else text.toList ++ ['\n']
  := by
  apply unlines_linesFrom List.not_mem_nil h

/-- The characters up to a newline belong to one line. -/
theorem linesFrom_of_not_mem {line : List Char} (hline : '\n' ∉ line)
    (collected text : List Char) :
  linesFrom collected (line ++ '\n' :: text) =
    endLine (line.reverse ++ collected) :: linesFrom [] text
  := by
  induction line generalizing collected with
  | nil => rfl
  | cons c line ih =>
    rw [List.mem_cons, not_or] at hline
    obtain ⟨hc, hrest⟩ := hline
    rw [List.cons_append, linesFrom_of_ne (Ne.symm hc), ih hrest, List.reverse_cons,
      List.append_assoc, List.singleton_append]

/-- Lines without newlines are the lines of their text, if none of them ends with a carriage
return. -/
theorem linesFrom_unlines {ls : List (List Char)}
    (h : ∀ line ∈ ls, '\n' ∉ line ∧ line.getLast? ≠ some '\r') :
  linesFrom [] (unlines ls) = ls
  := by
  induction ls with
  | nil => rfl
  | cons line ls ih =>
    obtain ⟨⟨hline, hlast⟩, hls⟩ := List.forall_mem_cons.mp h
    have hend : endLine line.reverse = line := by
      rw [endLine.eq_def]
      split
      next collected heq =>
        exfalso
        apply hlast
        rw [← List.head?_reverse, heq]
        rfl
      next => apply List.reverse_reverse
    rw [unlines, List.flatMap_cons, ← unlines, List.append_assoc, List.singleton_append,
      linesFrom_of_not_mem hline, List.append_nil, hend, ih hls]

/-! ### Characters of lines -/

theorem mem_of_mem_endLine (hc : c ∈ endLine collected) :
  c ∈ collected
  := by
  rw [endLine.eq_def] at hc
  split at hc
  next => apply List.mem_cons_of_mem _ (List.mem_reverse.mp hc)
  next => apply List.mem_reverse.mp hc

/-- The characters of a line are those of the text. -/
theorem mem_of_mem_linesFrom {line : List Char} (hline : line ∈ linesFrom collected text)
    (hc : c ∈ line) :
  c ∈ collected ∨ c ∈ text
  := by
  induction text generalizing collected with
  | nil =>
    rw [linesFrom] at hline
    split at hline
    next => cases hline
    next =>
      obtain rfl := List.mem_singleton.mp hline
      exact .inl (List.mem_reverse.mp hc)
  | cons d text ih =>
    by_cases hd : d = '\n'
    · subst hd
      rw [linesFrom_newline] at hline
      obtain rfl | hline := List.mem_cons.mp hline
      · exact .inl (mem_of_mem_endLine hc)
      · obtain h | h := ih hline
        · cases h
        · exact .inr (List.mem_cons_of_mem _ h)
    · rw [linesFrom_of_ne hd] at hline
      have h := ih hline
      rw [List.mem_cons] at h ⊢
      obtain (rfl | h) | h := h
      · exact .inr (.inl rfl)
      · exact .inl h
      · exact .inr (.inr h)

/-- Lines have no characters but those of the text. -/
theorem mem_of_mem_lines {text : String} {line : List Char} (hline : line ∈ lines text)
    (hc : c ∈ line) :
  c ∈ text.toList
  := (mem_of_mem_linesFrom hline hc).resolve_left List.not_mem_nil

end Highlight.Text
