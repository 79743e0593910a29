import Mathlib.Computability.Language
import Highlight.Proofs.Form

/-!
# The languages of forms

A form without assertions reads the texts of a language, whatever stands around them.
-/

open Computability

namespace Highlight

namespace Cursor

variable {L M : Language Char} {c d : Cursor}

/-- The text between the places belongs to the language. -/
def Spans (L : Language Char) (c d : Cursor) : Prop :=
  ∃ w ∈ L, c.rest = w ++ d.rest ∧ d = c.along w d.rest

/-- Nothing is spanned by the empty text only. -/
theorem spans_one :
  Spans 1 c d ↔ d = c
  := by
  constructor
  · rintro ⟨_, rfl, hrest, hd⟩
    rw [List.nil_append] at hrest
    rw [hd, ← hrest, along_nil]
  · rintro rfl
    exact ⟨[], Language.nil_mem_one, rfl, rfl⟩

/-- A piece is spanned by one of two languages exactly if it is by the first or by the second. -/
theorem spans_add :
  Spans (L + M) c d ↔ Spans L c d ∨ Spans M c d
  := by
  constructor
  · rintro ⟨w, hw, h⟩
    apply ((Language.mem_add L M w).mp hw).imp
    · intro hw
      use w, hw
    · intro hw
      use w, hw
  · rintro (⟨w, hw, h⟩ | ⟨w, hw, h⟩)
    · use w, (Language.mem_add L M w).mpr (.inl hw)
    · use w, (Language.mem_add L M w).mpr (.inr hw)

/-- A piece is spanned by two languages in a row exactly if it can be cut so that the first spans
what is in front of the cut and the second what is behind it. -/
theorem spans_mul :
  Spans (L * M) c d ↔ ∃ e, Spans L c e ∧ Spans M e d
  := by
  constructor
  · rintro ⟨_, hw, hrest, hd⟩
    obtain ⟨u, hu, v, hv, rfl⟩ := Language.mem_mul.mp hw
    rw [List.append_assoc] at hrest
    use c.along u (v ++ d.rest)
    constructor
    · use u, hu, hrest
      rfl
    · use v, hv, rfl
      rw [along_along]
      apply hd
  · rintro ⟨e, ⟨u, hu, hrest, he⟩, v, hv, hrest', hd⟩
    use u ++ v, Language.append_mem_mul hu hv
    constructor
    · rw [hrest, hrest', List.append_assoc]
    · rw [he, along_along] at hd
      apply hd

end Cursor

namespace Pattern

namespace Way

variable {R S : Way} {L M : Language Char}

/-- The way can be gone exactly over the texts of the language. -/
def Spells (R : Way) (L : Language Char) : Prop :=
  ∀ c d, (∃ ms, R c ms d) ↔ Cursor.Spans L c d

/-- The texts of one character of the set. -/
def symbols (s : CharSet) : Language Char :=
  {w | ∃ x, s.contains x ∧ w = [x]}

/-- Two ways in a row lead over the places to which the first leads. -/
theorem exists_andThen {c d : Cursor} :
  (∃ ms, R.andThen S c ms d) ↔ ∃ e, (∃ ms, R c ms e) ∧ ∃ ms, S e ms d
  := by
  constructor
  · rintro ⟨_, ms₁, e, ms₂, h₁, h₂, rfl⟩
    exact ⟨e, ⟨ms₁, h₁⟩, ms₂, h₂⟩
  · rintro ⟨e, ⟨ms₁, h₁⟩, ms₂, h₂⟩
    exact ⟨ms₁ ++ ms₂, ms₁, e, ms₂, h₁, h₂, rfl⟩

theorem spells_stay :
  Spells .stay 1
  := by
  intro c d
  rw [Cursor.spans_one]
  constructor
  · rintro ⟨_, rfl, rfl⟩
    rfl
  · rintro rfl
    exact ⟨[], rfl, rfl⟩

theorem spells_mark (m : Mark) :
  Spells (.mark m) 1
  := by
  intro c d
  rw [Cursor.spans_one]
  constructor
  · rintro ⟨_, rfl, rfl⟩
    rfl
  · rintro rfl
    exact ⟨_, rfl, rfl⟩

/-- Taking a character of a set spells the one-letter texts of the set. -/
theorem spells_take (s : CharSet) :
  Spells (.take s) (symbols s)
  := by
  intro c d
  constructor
  · rintro ⟨_, rfl, x, rest, hrest, hx, rfl⟩
    use [x], ⟨x, hx, rfl⟩, hrest
    rw [Cursor.along_cons]
    rfl
  · rintro ⟨_, ⟨x, hx, rfl⟩, hrest, hd⟩
    rw [Cursor.along_cons] at hd
    exact ⟨[], rfl, x, d.rest, hrest, hx, hd⟩

/-- Two ways in a row spell what the first spells followed by what the second does. -/
theorem Spells.andThen (hR : R.Spells L) (hS : S.Spells M) :
  (R.andThen S).Spells (L * M)
  := by
  intro c d
  rw [exists_andThen, Cursor.spans_mul]
  simp only [hR c, hS _ d]

/-- A choice of two ways spells what either does. -/
theorem Spells.orElse (hR : R.Spells L) (hS : S.Spells M) :
  (R.orElse S).Spells (L + M)
  := by
  intro c d
  rw [Cursor.spans_add, ← hR c d, ← hS c d]
  apply exists_or

/-- A way taken `n` times spells `n` of its texts in a row. -/
theorem Spells.iterate (hR : R.Spells L) (n : Nat) :
  (R.iterate n).Spells (L ^ n)
  := by
  induction n with
  | zero =>
    rw [pow_zero]
    apply spells_stay
  | succ n ih =>
    rw [pow_succ']
    apply hR.andThen ih

/-- From `least` to `most` texts of the language, and `least` texts if `most` is less. -/
def powers (L : Language Char) (least : Nat) (most : Option Nat) : Language Char :=
  {w | ∃ n, least ≤ n ∧ (∀ m, most = some m → n ≤ max least m) ∧ w ∈ L ^ n}

/-- A repeated way spells as many of its texts in a row as it may be repeated. -/
theorem Spells.times (hR : R.Spells L) (least : Nat) (most : Option Nat) :
  (R.times least most).Spells (powers L least most)
  := by
  intro c d
  constructor
  · rintro ⟨ms, n, hleast, hmost, h⟩
    obtain ⟨w, hw, h⟩ := (hR.iterate n c d).mp ⟨ms, h⟩
    exact ⟨w, ⟨n, hleast, hmost, hw⟩, h⟩
  · rintro ⟨w, ⟨n, hleast, hmost, hw⟩, h⟩
    obtain ⟨ms, h⟩ := (hR.iterate n c d).mpr ⟨w, hw, h⟩
    exact ⟨ms, n, hleast, hmost, h⟩

end Way

namespace Form

open Way

/-- The form asks for nothing but characters. -/
def asksNothing : Form → Bool
  | empty | set _ => true
  | assertion _ => false
  | group _ f => f.asksNothing
  | seq f g | alt f g => f.asksNothing && g.asksNothing
  | times f _ _ _ => f.asksNothing

/-- The texts that the form reads, when its assertions are left out. -/
def texts : Form → Language Char
  | empty | assertion _ => 1
  | set s => symbols s
  | group _ f => f.texts
  | seq f g => f.texts * g.texts
  | alt f g => f.texts + g.texts
  | times f least most _ => powers f.texts least most

/-- A form without assertions is read exactly over the pieces whose text is one of its texts. -/
theorem spells_texts {f : Form} (h : f.asksNothing) :
  f.Reads.Spells f.texts
  := by
  induction f with
  | empty => apply spells_stay
  | set s => apply spells_take
  | assertion a => cases h
  | group index f ih =>
    have hgroup :=
      (spells_mark (.opening index)).andThen ((ih h).andThen (spells_mark (.closing index)))
    rw [one_mul, mul_one] at hgroup
    apply hgroup
  | seq f g ihf ihg =>
    obtain ⟨hf, hg⟩ := Bool.and_eq_true_iff.mp h
    apply (ihf hf).andThen (ihg hg)
  | alt f g ihf ihg =>
    obtain ⟨hf, hg⟩ := Bool.and_eq_true_iff.mp h
    apply (ihf hf).orElse (ihg hg)
  | times f least most greedy ih => apply (ih h).times

/-! ### The forms that patterns are put together from -/

/-- Forms in sequence are read one after another. -/
theorem reads_inSequence_cons (f : Form) (fs : List Form) :
  (inSequence (f :: fs)).Reads = f.Reads.andThen (inSequence fs).Reads
  := by
  have key : ∀ f : Form, (fs.foldl seq f).Reads = f.Reads.andThen (inSequence fs).Reads := by
    induction fs with
    | nil =>
      intro f
      symm
      apply andThen_stay
    | cons g fs ih =>
      intro f
      rw [List.foldl_cons, ih, Reads, andThen_assoc, ← ih]
      rfl
  apply key

/-- Two sequences are read one after the other. -/
theorem reads_inSequence_append (fs gs : List Form) :
  (inSequence (fs ++ gs)).Reads = (inSequence fs).Reads.andThen (inSequence gs).Reads
  := by
  induction fs with
  | nil =>
    symm
    apply stay_andThen
  | cons f fs ih =>
    rw [List.cons_append, reads_inSequence_cons, ih, reads_inSequence_cons, andThen_assoc]

theorem texts_group (index : Nat) (f : Form) :
  (group index f).texts = f.texts
  := rfl

/-- The texts of a sequence are those of its parts in a row. -/
theorem texts_inSequence (fs : List Form) :
  (inSequence fs).texts = (fs.map texts).prod
  := by
  cases fs with
  | nil => rfl
  | cons f fs =>
    rw [inSequence]
    induction fs generalizing f with
    | nil => simp
    | cons g fs ih =>
      simp only [List.foldl_cons, ih, texts, List.map_cons, List.prod_cons, mul_assoc]

theorem contains_single (x y : Char) :
  (CharSet.single x).contains y ↔ y = x
  := by
  simp only [CharSet.single, CharSet.contains, Bool.and_eq_true, decide_eq_true_eq]
  constructor
  · rintro ⟨h₁, h₂⟩
    apply Char.le_antisymm h₂ h₁
  · rintro rfl
    exact ⟨Char.le_refl y, Char.le_refl y⟩

/-- The listed characters are those of the set, if there are any. -/
theorem contains_ofList {cs : List Char} (h : cs ≠ []) (y : Char) :
  (CharSet.ofList cs).contains y ↔ y ∈ cs
  := by
  fun_induction CharSet.ofList cs with
  | case1 => contradiction
  | case2 c => rw [contains_single, List.mem_singleton]
  | case3 c cs hcs ih =>
    rw [CharSet.contains, Bool.or_eq_true, contains_single, ih hcs, List.mem_cons]

theorem texts_char (x : Char) :
  (char x).texts = {[x]}
  := by
  ext w
  constructor
  · rintro ⟨y, hy, rfl⟩
    rw [(contains_single x y).mp hy]
    rfl
  · rintro rfl
    exact ⟨x, (contains_single x x).mpr rfl, rfl⟩

/-- The only text of a word is the word itself. -/
theorem texts_word (w : String) :
  (word w).texts = {w.toList}
  := by
  rw [word, texts_inSequence]
  induction w.toList with
  | nil => rfl
  | cons x l ih =>
    simp only [List.map_cons, List.prod_cons, texts_char, ih]
    ext v
    rw [Language.mem_mul]
    constructor
    · rintro ⟨_, rfl, _, rfl, rfl⟩
      rfl
    · rintro rfl
      exact ⟨[x], rfl, l, rfl, rfl⟩

/-- The listed words. -/
def listed (words : List String) : Language Char :=
  {t | ∃ w ∈ words, t = w.toList}

theorem listed_cons (w : String) (words : List String) :
  listed (w :: words) = {w.toList} + listed words
  := by
  ext t
  rw [Language.mem_add]
  constructor
  · rintro ⟨v, hv, rfl⟩
    rcases List.mem_cons.mp hv with rfl | hv
    · left
      rfl
    · right
      exact ⟨v, hv, rfl⟩
  · rintro (rfl | ⟨v, hv, rfl⟩)
    · exact ⟨w, List.mem_cons_self, rfl⟩
    · exact ⟨v, List.mem_cons_of_mem w hv, rfl⟩

/-- The texts of a choice of words are the words. -/
theorem texts_oneOf {words : List String} (h : words ≠ []) :
  (oneOf words).texts = listed words
  := by
  cases words with
  | nil => contradiction
  | cons w words =>
    rw [oneOf, List.map_cons]
    clear h
    induction words generalizing w with
    | nil =>
      rw [List.map_nil, firstOf, texts_word, listed_cons]
      have hnil : listed [] = 0 := by
        ext t
        constructor
        · rintro ⟨v, hv, -⟩
          cases hv
        · intro ht
          apply absurd ht (Language.notMem_zero t)
      rw [hnil, add_zero]
    | cons v words ih =>
      rw [List.map_cons, firstOf, texts, ih, texts_word, ← listed_cons]
      nofun

/-- What may be left out has the empty text in addition to its own. -/
theorem texts_opt (f : Form) :
  (opt f).texts = 1 + f.texts
  := by
  ext w
  rw [Language.mem_add]
  constructor
  · rintro ⟨n, -, hn, hw⟩
    rcases Nat.le_one_iff_eq_zero_or_eq_one.mp (hn 1 rfl) with rfl | rfl
    · left
      apply hw
    · right
      rwa [pow_one] at hw
  · rintro (hw | hw)
    · exact ⟨0, le_rfl, fun _ _ => Nat.zero_le _, hw⟩
    · refine ⟨1, Nat.zero_le 1, ?_, ?_⟩
      · rintro _ ⟨⟩
        apply le_rfl
      · rwa [pow_one]

/-- Any number of characters of the set. -/
def runs (s : CharSet) : Language Char :=
  {w | ∀ x ∈ w, s.contains x}

/-- Any number of characters of a set spell the runs of its characters. -/
theorem texts_many_set (s : CharSet) :
  (many (set s)).texts = runs s
  := by
  ext w
  constructor
  · rintro ⟨n, -, -, hw⟩
    obtain ⟨pieces, rfl, -, hpieces⟩ := Language.mem_pow.mp hw
    intro x hx
    obtain ⟨piece, hpiece, hx⟩ := List.mem_flatten.mp hx
    obtain ⟨y, hy, rfl⟩ := hpieces piece hpiece
    rw [List.mem_singleton.mp hx]
    apply hy
  · intro hw
    refine ⟨w.length, Nat.zero_le _, nofun, Language.mem_pow.mpr ⟨w.map ([·]), ?_, ?_, ?_⟩⟩
    · rw [← List.flatMap_def, List.flatMap_singleton']
    · apply List.length_map
    · intro piece hpiece
      obtain ⟨x, hx, rfl⟩ := List.mem_map.mp hpiece
      exact ⟨x, hw x hx, rfl⟩

/-- One or more characters of the set. -/
def runs1 (s : CharSet) : Language Char :=
  {w | w ≠ [] ∧ w ∈ runs s}

/-- One or more characters of a set spell the runs that are not empty. -/
theorem texts_many1_set (s : CharSet) :
  (many1 (set s)).texts = runs1 s
  := by
  have hmany : ∀ w, (∃ n, w ∈ symbols s ^ n) ↔ w ∈ runs s := by
    intro w
    rw [← texts_many_set]
    constructor
    · rintro ⟨n, hw⟩
      exact ⟨n, Nat.zero_le n, nofun, hw⟩
    · rintro ⟨n, -, -, hw⟩
      exact ⟨n, hw⟩
  ext w
  constructor
  · rintro ⟨n, hn, -, hw⟩
    refine ⟨?_, (hmany w).mp ⟨n, hw⟩⟩
    obtain ⟨n, rfl⟩ := Nat.exists_eq_succ_of_ne_zero (Nat.ne_of_gt hn)
    rw [pow_succ'] at hw
    obtain ⟨_, ⟨x, -, rfl⟩, v, -, rfl⟩ := Language.mem_mul.mp hw
    nofun
  · rintro ⟨hne, hw⟩
    obtain ⟨n, hw⟩ := (hmany w).mpr hw
    refine ⟨n, Nat.one_le_iff_ne_zero.mpr ?_, nofun, hw⟩
    rintro rfl
    apply hne hw

/-- One of the characters. -/
def anyOf (cs : List Char) : Language Char :=
  {w | ∃ x ∈ cs, w = [x]}

theorem texts_set_ofList {cs : List Char} (h : cs ≠ []) :
  (set (CharSet.ofList cs)).texts = anyOf cs
  := by
  ext w
  constructor
  · rintro ⟨x, hx, rfl⟩
    exact ⟨x, (contains_ofList h x).mp hx, rfl⟩
  · rintro ⟨x, hx, rfl⟩
    exact ⟨x, (contains_ofList h x).mpr hx, rfl⟩

/-! ### Forms that are read at the start of a line -/

variable {line : List Char} {c : Cursor} {fs : List Form}

/-- An assertion is read at places where it holds, and takes nothing. -/
theorem exists_check {a : Assertion} {d : Cursor} :
  (∃ ms, Way.check a c ms d) ↔ a.holds c ∧ d = c
  := by
  constructor
  · rintro ⟨_, rfl, h⟩
    apply h
  · intro h
    exact ⟨[], rfl, h⟩

/-- Behind the start of a line, its start is the only place that is asserted to be. -/
theorem holds_textStart (hc : Cursor.start line ≤ c) :
  Assertion.textStart.holds c ↔ c = Cursor.start line
  := by
  rw [Assertion.holds, Option.isNone_iff_eq_none]
  constructor
  · apply Cursor.eq_start_of_before_eq_none hc
  · rintro rfl
    rfl

/-- Forms behind the start of the text read the start of a line. -/
theorem reads_textStart (h : (inSequence fs).asksNothing) (hc : Cursor.start line ≤ c) :
  (∃ ms d, (inSequence (assertion .textStart :: fs)).Reads c ms d) ↔
    c = Cursor.start line ∧ ∃ w ∈ (inSequence fs).texts, w <+: line
  := by
  rw [exists_comm, reads_inSequence_cons]
  simp only [exists_andThen, Reads, exists_check, holds_textStart hc, spells_texts h _ _]
  constructor
  · rintro ⟨d, _, ⟨hstart, rfl⟩, w, hw, hrest, -⟩
    use hstart, w, hw, d.rest
    rw [hstart] at hrest
    apply hrest.symm
  · rintro ⟨rfl, w, hw, rest, hline⟩
    exact ⟨(Cursor.start line).along w rest, _, ⟨rfl, rfl⟩, w, hw, hline.symm, rfl⟩

/-- Forms between the start and the end of the text read a whole line. -/
theorem reads_textStart_textEnd (h : (inSequence fs).asksNothing) (hc : Cursor.start line ≤ c) :
  (∃ ms d, (inSequence (assertion .textStart :: (fs ++ [assertion .textEnd]))).Reads c ms d) ↔
    c = Cursor.start line ∧ line ∈ (inSequence fs).texts
  := by
  rw [exists_comm, reads_inSequence_cons, reads_inSequence_append]
  have hend : (inSequence [assertion .textEnd]).Reads = .check .textEnd := rfl
  simp only [hend, exists_andThen, Reads, exists_check, holds_textStart hc, spells_texts h _ _]
  constructor
  · rintro ⟨_, _, ⟨hstart, rfl⟩, e, ⟨w, hw, hrest, -⟩, hnil, -⟩
    use hstart
    have hline : line = w := by
      rw [hstart, List.isEmpty_iff.mp hnil, List.append_nil] at hrest
      apply hrest
    rwa [hline]
  · rintro ⟨rfl, hline⟩
    have hspan : Cursor.Spans (inSequence fs).texts (Cursor.start line)
        ((Cursor.start line).along line []) :=
      ⟨line, hline, (List.append_nil line).symm, rfl⟩
    exact ⟨_, _, ⟨rfl, rfl⟩, _, hspan, rfl, rfl⟩

end Form

end Pattern

end Highlight
