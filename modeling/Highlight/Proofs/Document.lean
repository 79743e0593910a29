import Highlight.Registry

/-!
# Documents

A registry gives back the grammar that was put in last under an identifier.  Every line of a
document is tokenized from the state that the lines before it leave.
-/

namespace Highlight

namespace Registry

theorem find?_cons_id (g : Grammar) (gs : List Grammar) (id : String) :
  (g :: gs).find? (·.id == id) = if g.id = id then some g else gs.find? (·.id == id)
  := by
  rw [List.find?_cons]
  by_cases hid : g.id = id
  · rw [if_pos hid, beq_iff_eq.mpr hid]
  · rw [if_neg hid, beq_eq_false_iff_ne.mpr hid]

/-- Putting a grammar in its place changes what is found under its own identifier only. -/
theorem find?_place (g : Grammar) (gs : List Grammar) (id : String) :
  (place g gs).find? (·.id == id) = if g.id = id then some g else gs.find? (·.id == id)
  := by
  induction gs with
  | nil =>
    rw [place]
    apply find?_cons_id
  | cons h gs ih =>
    rw [place]
    split
    next => apply find?_cons_id
    next =>
      split
      next hgh =>
        rw [find?_cons_id, find?_cons_id, ← hgh]
        by_cases hid : g.id = id
        · rw [if_pos hid, if_pos hid]
        · simp only [if_neg hid]
      next hgh =>
        rw [find?_cons_id, find?_cons_id, ih]
        by_cases hid : g.id = id
        · have hne : ¬h.id = id := fun hh => hgh (hid.trans hh.symm)
          rw [if_neg hne, if_pos hid, if_pos hid]
        · simp only [if_neg hid]

/-- A grammar that is put into a registry is found under its identifier and replaces no other. -/
theorem get?_insert (r : Registry) (g : Grammar) (id : String) :
  (r.insert g).get? id = if g.id = id then some g else r.get? id
  := find?_place g r.grammars id

variable {r : Registry} {id : String} {g : Grammar}

/-- A registry reads a line with the grammar of the identifier. -/
theorem tokenizeLine_eq (h : r.get? id = some g) (line : List Char) (state : LineState) :
  r.tokenizeLine id line state = .ok (g.tokenizeLine r.get? line state)
  := by
  rw [tokenizeLine, find, h]
  rfl

/-- A registry reads a document line by line with the grammar of the identifier. -/
theorem tokenizeDocument_eq (h : r.get? id = some g) (text : String) :
  r.tokenizeDocument id text = .ok (g.tokenizeLines r.get? .root (Text.lines text))
  := by
  rw [tokenizeDocument, find, h]
  rfl

end Registry

namespace Grammar

variable (g : Grammar) (lookup : String → Option Grammar)

/-- The state that lines leave when they are tokenized one after another. -/
def stateAfter (state : LineState) (lines : List (List Char)) : LineState :=
  lines.foldl (fun state line => (g.tokenizeLine lookup line state).endState) state

/-- The state after one more line is the one at its end. -/
theorem stateAfter_take_succ {lines : List (List Char)} {i : Nat} {line : List Char}
    (h : lines[i]? = some line) (state : LineState) :
  g.stateAfter lookup state (lines.take (i + 1))
    = (g.tokenizeLine lookup line (g.stateAfter lookup state (lines.take i))).endState
  := by
  rw [List.take_add_one, h, stateAfter, List.foldl_append]
  rfl

/-- Each line is read. -/
theorem length_tokenizeLines (state : LineState) (lines : List (List Char)) :
  (g.tokenizeLines lookup state lines).length = lines.length
  := by
  induction lines generalizing state with
  | nil => rfl
  | cons line lines ih => rw [tokenizeLines, List.length_cons, ih, List.length_cons]

/-- Each line is tokenized from the state that the lines before it leave. -/
theorem getElem?_tokenizeLines (state : LineState) (lines : List (List Char)) (i : Nat) :
  (g.tokenizeLines lookup state lines)[i]? = lines[i]?.map fun line =>
    g.tokenizeLine lookup line (g.stateAfter lookup state (lines.take i))
  := by
  induction lines generalizing state i with
  | nil => rfl
  | cons line lines ih =>
    rw [tokenizeLines]
    cases i with
    | zero => rfl
    | succ i =>
      rw [List.getElem?_cons_succ, ih, List.getElem?_cons_succ]
      rfl

end Grammar

end Highlight
