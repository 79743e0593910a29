import Highlight.Proofs.Building
import Highlight.Proofs.Dependence
import Mathlib.Data.String.Basic

/-!
# Registries as they are filled

A registry takes a grammar if every mode that a rule enters is a mode of the grammar, and is left
as it is otherwise.  It has, under each identifier, the last grammar taken with it.
-/

namespace Highlight

/-! ### The modes that rules enter -/

theorem Action.target?_eq_some_iff {action : Action} {name : String} :
  action.target? = some name ↔ action = .push name
  := by cases action <;> simp [Action.target?]

namespace Mode

variable {m : Mode} {name : String} (p : String → Bool)

/-- The targets of a mode are the modes that its rules enter. -/
theorem mem_targets_iff :
  name ∈ m.targets ↔ ∃ rs, m.body = .rules rs ∧ ∃ r ∈ rs, r.action = .push name
  := by
  obtain ⟨mode, body⟩ := m
  cases body <;> simp [targets, Action.target?_eq_some_iff]

theorem find?_targets_eq_none_iff :
  m.targets.find? p = none ↔
    ∀ rs, m.body = .rules rs → ∀ r ∈ rs, ∀ name, r.action = .push name → ¬p name
  := by
  simp only [List.find?_eq_none, mem_targets_iff]
  constructor
  · exact fun h rs hrs r hr name hname => h name ⟨rs, hrs, r, hr, hname⟩
  · rintro h name ⟨rs, hrs, r, hr, hname⟩
    exact h rs hrs r hr name hname

/-- The first target with a property is that of a rule, and no rule in front of it has such a
target. -/
theorem find?_targets_eq_some_iff :
  m.targets.find? p = some name ↔
    ∃ rs r rs', m.body = .rules (rs ++ r :: rs') ∧ r.action = .push name ∧ p name ∧
      ∀ r ∈ rs, ∀ name, r.action = .push name → ¬p name
  := by
  obtain ⟨mode, body⟩ := m
  cases body with
  | embedded e => simp [targets]
  | rules rs =>
    have hany (r : Rule) : (!r.action.target?.any p) ↔ ∀ name, r.action = .push name → ¬p name := by
      cases r.action <;> simp [Action.target?]
    simp only [targets, List.find?_filterMap, Option.bind_eq_some_iff,
      List.find?_eq_some_iff_append, hany, Action.target?_eq_some_iff]
    constructor
    · rintro ⟨r, ⟨hp, before, after, rfl, hbefore⟩, hr⟩
      refine ⟨before, r, after, rfl, hr, ?_, hbefore⟩
      simpa [hr, Action.target?] using hp
    · rintro ⟨before, r, after, ⟨⟩, hr, hp, hbefore⟩
      refine ⟨r, ⟨?_, before, after, rfl, hbefore⟩, hr⟩
      simpa [hr, Action.target?] using hp

end Mode

namespace Grammar

/-- The grammar has the mode that the rule enters, if the rule enters one. -/
def HasTarget (g : Grammar) (r : Rule) : Prop :=
  ∀ name, r.action = .push name → ∃ m ∈ g.modes, m.name = name

/-- The grammar has all modes that rules of the mode enter. -/
def HasTargets (g : Grammar) (m : Mode) : Prop :=
  ∀ rs, m.body = .rules rs → ∀ r ∈ rs, g.HasTarget r

/-- The grammar has all modes that its rules enter. -/
def Closed (g : Grammar) : Prop :=
  ∀ m ∈ g.modes, g.HasTargets m

/-- A rule enters a mode that the grammar does not have, and no rule before it does. -/
def FirstMissing (g : Grammar) (name : String) : Prop :=
  ∃ front mode rs r rs' back, g.modes = front ++ ⟨mode, .rules (rs ++ r :: rs')⟩ :: back ∧
    r.action = .push name ∧ (∀ m ∈ g.modes, m.name ≠ name) ∧
    (∀ m ∈ front, g.HasTargets m) ∧ ∀ r ∈ rs, g.HasTarget r

variable {g : Grammar} {m : Mode} {r : Rule} {name : String}

theorem modeIndex?_isNone_iff :
  (g.modeIndex? name).isNone ↔ ∀ m ∈ g.modes, m.name ≠ name
  := by simp [modeIndex?]

/-- A rule has its target exactly if the mode that it enters, if any, is there. -/
theorem hasTarget_iff :
  g.HasTarget r ↔ ∀ name, r.action = .push name → ¬(g.modeIndex? name).isNone
  := by
  simp only [HasTarget, modeIndex?_isNone_iff]
  push Not
  rfl

/-- All rules of a mode have their targets exactly if none of the targets is missing. -/
theorem hasTargets_iff :
  g.HasTargets m ↔ m.targets.find? (fun name => (g.modeIndex? name).isNone) = none
  := by simp only [HasTargets, hasTarget_iff, Mode.find?_targets_eq_none_iff]

/-- No mode is missing exactly if the grammar is closed. -/
theorem missingMode?_eq_none_iff :
  g.missingMode? = none ↔ g.Closed
  := by
  rw [missingMode?, List.find?_flatMap, List.findSome?_eq_none_iff]
  simp only [Closed, hasTargets_iff]

/-- The mode that is reported as missing is the first that is. -/
theorem missingMode?_eq_some_iff :
  g.missingMode? = some name ↔ g.FirstMissing name
  := by
  rw [missingMode?, List.find?_flatMap, List.findSome?_eq_some_iff]
  simp only [Mode.find?_targets_eq_some_iff, ← hasTargets_iff, ← hasTarget_iff]
  constructor
  · rintro ⟨front, ⟨mode, _⟩, back, hmodes, ⟨rs, r, rs', rfl, hr, hname, hrs⟩, hfront⟩
    exact ⟨front, mode, rs, r, rs', back, hmodes, hr, modeIndex?_isNone_iff.mp hname, hfront, hrs⟩
  · rintro ⟨front, mode, rs, r, rs', back, hmodes, hr, hname, hfront, hrs⟩
    have hname := modeIndex?_isNone_iff.mpr hname
    exact ⟨front, _, back, hmodes, ⟨rs, r, rs', rfl, hr, hname, hrs⟩, hfront⟩

/-- A grammar passes its check exactly if it is closed. -/
theorem validate_eq_ok_iff :
  g.validate = .ok () ↔ g.Closed
  := by
  rw [← missingMode?_eq_none_iff, validate]
  cases g.missingMode? <;> simp

instance : Decidable g.Closed :=
  decidable_of_iff _ validate_eq_ok_iff

/-- A grammar fails its check exactly if a mode is missing, and the first one is reported. -/
theorem validate_eq_error_iff {fault : GrammarError} :
  g.validate = .error fault ↔ ∃ name, g.FirstMissing name ∧ fault = .unknownMode g.id name
  := by
  simp only [← missingMode?_eq_some_iff, validate]
  cases g.missingMode? <;> simp [eq_comm]

end Grammar

namespace Registry

/-! ### Identifiers in order -/

variable {g k : Grammar} {gs : List Grammar} {r : Registry} {id : String}

theorem mem_place (h : k ∈ place g gs) :
  k = g ∨ k ∈ gs
  := by
  induction gs with
  | nil => exact .inl (List.mem_singleton.mp h)
  | cons h' gs ih =>
    rw [place] at h
    split at h
    next => exact List.mem_cons.mp h
    next =>
      split at h
      next => exact (List.mem_cons.mp h).imp_right (List.mem_cons_of_mem _)
      next =>
        obtain rfl | h := List.mem_cons.mp h
        · exact .inr List.mem_cons_self
        · exact (ih h).imp_right (List.mem_cons_of_mem _)

/-- Grammars stay in the order of their identifiers when another one is put among them. -/
theorem pairwise_place (h : gs.Pairwise (·.id < ·.id)) :
  (place g gs).Pairwise (·.id < ·.id)
  := by
  induction gs with
  | nil => apply List.pairwise_singleton
  | cons k gs ih =>
    obtain ⟨hk, hgs⟩ := List.pairwise_cons.mp h
    rw [place]
    split
    next hlt =>
      apply List.Pairwise.cons _ h
      rw [List.forall_mem_cons]
      exact ⟨hlt, fun k' hk' => hlt.trans (hk k' hk')⟩
    next hlt =>
      split
      next heq =>
        apply List.Pairwise.cons _ hgs
        rw [heq]
        exact hk
      next hne =>
        apply List.Pairwise.cons _ (ih hgs)
        intro k' hk'
        obtain rfl | hk' := mem_place hk'
        · exact lt_of_le_of_ne (not_lt.mp hlt) (Ne.symm hne)
        · exact hk k' hk'

/-! ### Calls in place -/

/-- A call with a grammar has an answer and the registry that it leaves, also where it fails. -/
def call (r : Registry) (k : Grammar) : Except GrammarError Unit × Registry :=
  match k.validate with
  | .ok () => (.ok (), r.insert k)
  | .error fault => (.error fault, r)

/-- The registry after calls, of which each may fail. -/
def callAll (r : Registry) (gs : List Grammar) : Registry :=
  gs.foldl (fun r k => (r.call k).2) r

/-- Registering in place leaves the new registry, or the old one if the grammar is refused. -/
theorem call_eq (r : Registry) (k : Grammar) :
  r.call k =
    match r.register k with
    | .ok r' => (.ok (), r')
    | .error fault => (.error fault, r)
  := by
  rw [call, register]
  cases k.validate <;> rfl

/-- A grammar is put into the registry exactly if it is closed. -/
theorem call_snd (r : Registry) (k : Grammar) :
  (r.call k).2 = if k.Closed then r.insert k else r
  := by
  rw [call]
  split
  next h => rw [if_pos (Grammar.validate_eq_ok_iff.mp h)]
  next h =>
    rw [if_neg]
    rw [← Grammar.validate_eq_ok_iff, h]
    rintro ⟨⟩

/-- A grammar is registered exactly if it is closed. -/
theorem exists_register_eq_ok_iff :
  (∃ r', r.register k = .ok r') ↔ k.Closed
  := by simp [register_eq_ok_iff, Grammar.validate_eq_ok_iff]

/-- A grammar is refused exactly if a mode is missing, and the first one is reported. -/
theorem register_eq_error_iff {fault : GrammarError} :
  r.register k = .error fault ↔ ∃ name, k.FirstMissing name ∧ fault = .unknownMode k.id name
  := by
  rw [← Grammar.validate_eq_error_iff, register]
  cases k.validate <;> simp [bind, Except.bind, pure, Except.pure]

/-- What a registry holds after calls with the grammars. -/
structure Filled (gs : List Grammar) (r : Registry) : Prop where
  get? : ∀ id, r.get? id = gs.reverse.find? fun k => k.Closed ∧ k.id = id
  pairwise : r.grammars.Pairwise (·.id < ·.id)

/-- One more call keeps the registry filled with what has been registered. -/
theorem Filled.step (h : Filled gs r) (k : Grammar) :
  Filled (gs ++ [k]) (r.call k).2
  := by
  rw [call_snd]
  constructor
  case get? =>
    intro id
    rw [List.reverse_concat, List.find?_cons, ← h.get? id]
    by_cases hk : k.Closed
    · rw [if_pos hk, get?_insert]
      by_cases hid : k.id = id <;> simp [hk, hid]
    · simp [hk]
  case pairwise =>
    split
    next => exact pairwise_place h.pairwise
    next => exact h.pairwise

theorem callAll_concat (r : Registry) (gs : List Grammar) (k : Grammar) :
  r.callAll (gs ++ [k]) = ((r.callAll gs).call k).2
  := by
  rw [callAll, List.foldl_append]
  rfl

/-- A registry is filled by the calls that are made. -/
theorem filled_callAll (gs : List Grammar) :
  Filled gs (empty.callAll gs)
  := by
  induction gs using List.reverseRec with
  | nil => exact ⟨fun _ => rfl, List.Pairwise.nil⟩
  | append_singleton gs k ih =>
    rw [callAll_concat]
    apply ih.step

/-- The identifiers of a registry are those that a grammar is found under. -/
theorem mem_ids_iff :
  id ∈ r.ids ↔ (r.get? id).isSome
  := by simp [ids, get?]

end Registry

/-! ### Building and registering -/

/-- However calls build a grammar and fill a registry, and whatever reading the text of a pattern
comes to, the calls that fail leave nothing behind.  The grammar has the root mode with index 0,
distinct names, and modes that keep their indexes and have the rules added to them in order.  The
registry takes just the grammars that have all modes which their rules enter, reports the first one
that is missing, and has the last grammar taken with an identifier. -/
theorem callAll_atomic :
  (∀ (read : String → Except PatternError Pattern) (id : String) (as bs : List Addition),
    let g := Grammar.addAll read { id } as
    (Draft.new id).callAll read as = g.draft ∧
    (∀ a : Addition, a.call read g.draft =
      match a.addTo read g with
      | .ok g' => (.ok (), g'.draft)
      | .error fault => (.error fault, g.draft)) ∧
    g.mode? 0 = some ⟨"root", .rules (Addition.rulesFor "root" as)⟩ ∧
    (g.modes.map (·.name)).Nodup ∧
    (∀ i m, g.mode? i = some m → (Grammar.addAll read { id } (as ++ bs)).modeIndex? m.name = some i) ∧
    ∀ m ∈ g.modes, ∀ rs, m.body = .rules rs → rs = Addition.rulesFor m.name as) ∧
  ∀ gs : List Grammar,
    let r := Registry.empty.callAll gs
    (∀ k, r.call k =
      match r.register k with
      | .ok r' => (.ok (), r')
      | .error fault => (.error fault, r)) ∧
    (∀ k, (∃ r', r.register k = .ok r') ↔ k.Closed) ∧
    (∀ k fault, r.register k = .error fault ↔
      ∃ name, k.FirstMissing name ∧ fault = .unknownMode k.id name) ∧
    (∀ id, r.get? id = gs.reverse.find? fun k => k.Closed ∧ k.id = id) ∧
    (∀ id, r.contains id ↔ ∃ k, r.get? id = some k) ∧
    r.ids.Pairwise (· < ·) ∧ ∀ id, id ∈ r.ids ↔ ∃ k ∈ gs, k.Closed ∧ k.id = id
  := by
  constructor
  · intro read id as bs g
    have hbuilt : Built as g.modes := Grammar.built_addAll read as id
    refine ⟨Grammar.callAll_draft read { id } as, g.call_draft read, ?_, hbuilt.nodup, ?_,
      hbuilt.rules⟩
    · have hroot : g.rootRules = Addition.rulesFor "root" as :=
        hbuilt.rules _ List.mem_cons_self _ rfl
      rw [← hroot]
      rfl
    · exact fun i m hm => Grammar.modeIndex?_addAll read as bs id hm
  · intro gs r
    have hfilled : Registry.Filled gs r := Registry.filled_callAll gs
    refine ⟨r.call_eq, ?_, ?_, hfilled.get?, ?_, ?_, ?_⟩
    · exact fun k => Registry.exists_register_eq_ok_iff
    · exact fun k fault => Registry.register_eq_error_iff
    · exact fun id => Option.isSome_iff_exists
    · exact List.pairwise_map.mpr hfilled.pairwise
    · intro id
      rw [Registry.mem_ids_iff, hfilled.get?]
      simp

/-- A mode is refused for its text and a rule for its mode after a mode has been made, and a grammar
is refused in the place of one that has been taken. -/
theorem callAll_atomic_refused :
  let word : Rule := { name := "word", pattern := .ofForm .empty, kind := .keyword }
  let as : List Addition :=
    [.embedding "inner" "k" "^\\s", .ruleTo "block" word, .embedding "outer" "k" "(",
      .ruleTo "inner" word]
  let g := Grammar.addAll Pattern.parse { id := "g" } as
  let k : Grammar := { id := "g", rootRules := [{ word with action := .push "inner" }] }
  let r := Registry.empty.callAll [g, k]
  (Draft.new "g").callAll Pattern.parse as = g.draft ∧
    Addition.call Pattern.parse g.draft (.embedding "outer" "k" "(") =
      (.error (.invalidPattern "g.outer" .unclosedGroup), g.draft) ∧
    Addition.call Pattern.parse g.draft (.ruleTo "inner" word) =
      (.error (.takesNoRules "g" "inner"), g.draft) ∧
    g.mode? 2 = some ⟨"block", .rules [word]⟩ ∧ [word] = Addition.rulesFor "block" as ∧
    (Grammar.addAll Pattern.parse { id := "g" } (as ++ [.rule word])).modeIndex? "block" = some 2 ∧
    r.register k = .error (.unknownMode "g" "inner") ∧ r.get? "g" = some g
  := by
  intro word as g k r
  obtain ⟨hbuild, hregister⟩ := callAll_atomic
  obtain ⟨hdraft, hcall, -, -, hindex, hrules⟩ := hbuild Pattern.parse "g" as [.rule word]
  obtain ⟨-, -, herror, hget, -⟩ := hregister [g, k]
  have hunread : g.embed "outer" "k" "(" = .error (.invalidPattern "g.outer" .unclosedGroup) := rfl
  have hrefused : g.addRuleTo "inner" word = .error (.takesNoRules "g" "inner") := rfl
  have hmode : g.mode? 2 = some ⟨"block", .rules [word]⟩ := rfl
  have hmissing : k.FirstMissing "inner" :=
    ⟨[], "root", [], _, [], [], rfl, rfl, by decide, by simp, by simp⟩
  have hlast : [g, k].reverse.find? (fun k => k.Closed ∧ k.id = "g") = some g := by decide
  refine ⟨hdraft, ?_, ?_, hmode, ?_, hindex 2 _ hmode, ?_, ?_⟩
  · rw [hcall, Addition.addTo, hunread]
  · rw [hcall, Addition.addTo, hrefused]
  · exact hrules _ (List.mem_of_getElem? hmode) _ rfl
  · exact (herror k _).mpr ⟨"inner", hmissing, rfl⟩
  · exact (hget "g").trans hlast

end Highlight
