import Mathlib.Data.List.Forall2

/-!
# Results that may be missing

What is known of a computation that may fail when it has given a result: the steps it is made of
have given theirs.
-/

namespace Highlight

variable {ε α β : Type} {as : List α} {bs : List β} {b : β} {e : ε}

/-- A computation with two steps has a result only if both have. -/
theorem exists_of_bind_eq_ok {x : Except ε α} {f : α → Except ε β} (h : x >>= f = .ok b) :
  ∃ a, x = .ok a ∧ f a = .ok b
  := by
  cases x with
  | error e => cases h
  | ok a => use a, rfl, h

/-- What an error is reported as does not change the result. -/
theorem eq_ok_of_mapError {ε' : Type} {x : Except ε α} {f : ε → ε'} {a : α}
    (h : x.mapError f = .ok a) :
  x = .ok a
  := by
  cases x with
  | error e => cases h
  | ok a' =>
    cases h
    rfl

/-- A list of results is one of the results for the elements. -/
theorem mapM_eq_ok_iff {f : α → Except ε β} :
  as.mapM f = .ok bs ↔ List.Forall₂ (fun a b => f a = .ok b) as bs
  := by
  induction as generalizing bs with
  | nil =>
    rw [List.mapM_nil, List.forall₂_nil_left_iff]
    constructor
    · rintro ⟨⟩
      rfl
    · rintro rfl
      rfl
  | cons a as ih =>
    rw [List.mapM_cons, List.forall₂_cons_left_iff]
    constructor
    · intro h
      obtain ⟨b, hb, h⟩ := exists_of_bind_eq_ok h
      obtain ⟨bs', hbs, h⟩ := exists_of_bind_eq_ok h
      cases h
      exact ⟨b, bs', hb, ih.mp hbs, rfl⟩
    · rintro ⟨b, bs', hb, hbs, rfl⟩
      rw [hb, ih.mpr hbs]
      rfl

/-- If there is no list of results, the fault is that of an element. -/
theorem exists_of_mapM_eq_error {f : α → Except ε β} (h : as.mapM f = .error e) :
  ∃ a ∈ as, f a = .error e
  := by
  induction as with
  | nil => cases h
  | cons a as ih =>
    rw [List.mapM_cons] at h
    cases ha : f a with
    | error e' =>
      rw [ha] at h
      cases h
      exact ⟨a, List.mem_cons_self, ha⟩
    | ok b =>
      rw [ha] at h
      cases has : as.mapM f with
      | error e' =>
        rw [has] at h
        cases h
        obtain ⟨a', ha', h⟩ := ih has
        exact ⟨a', List.mem_cons_of_mem _ ha', h⟩
      | ok bs =>
        rw [has] at h
        cases h

end Highlight
