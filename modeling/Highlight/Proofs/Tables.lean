import Highlight.Toml.Document
import Mathlib.Algebra.Ring.Int.Defs
import Mathlib.Data.List.Nodup

/-!
# Tables of documents

Whatever is read as a document, none of its tables has two entries with the same key, and its
integers fit into 64 bits, at any depth.  This holds of the tables under construction, and each step
of the reader keeps it.
-/

namespace Highlight

/-! ### Lists with keys -/

section

variable {α β : Type} [DecidableEq α] {l : List (α × β)} {k : α} {v : β}

/-- What is found under a key is listed with it. -/
theorem mem_of_lookup_eq_some (h : l.lookup k = some v) :
  (k, v) ∈ l
  := by
  obtain ⟨front, back, rfl, -⟩ := List.lookup_eq_some_iff.mp h
  apply List.mem_append_right _ List.mem_cons_self

/-- Nothing is found under a key exactly if it is not one of the keys. -/
theorem lookup_eq_none_iff_not_mem :
  l.lookup k = none ↔ k ∉ l.map (·.1)
  := by
  rw [List.lookup_eq_none_iff, List.mem_map]
  constructor
  · rintro h ⟨e, he, rfl⟩
    apply bne_iff_ne.mp (h e he) rfl
  · intro h e he
    apply bne_iff_ne.mpr
    rintro rfl
    exact h ⟨e, he, rfl⟩

/-- If no key is listed twice, what is listed with a key is found under it. -/
theorem lookup_eq_some_of_mem (hkeys : (l.map (·.1)).Nodup) (h : (k, v) ∈ l) :
  l.lookup k = some v
  := by
  obtain ⟨front, back, rfl⟩ := List.append_of_mem h
  rw [List.map_append, List.nodup_append] at hkeys
  rw [List.lookup_append, List.lookup_cons_self, lookup_eq_none_iff_not_mem.mpr, Option.none_or]
  intro hfront
  apply hkeys.2.2 k hfront k List.mem_cons_self rfl

end

namespace Toml

/-! ### Results -/

section

variable {ε α β : Type} {x : Except ε α} {f : α → Except ε β} {P : α → Prop} {Q : β → Prop}

/-- The result, if there is one, has the property. -/
def Yields : Except ε α → (α → Prop) → Prop
  | .ok a, P => P a
  | .error _, _ => True

theorem Yields.elim {a : α} (h : Yields x P) (hx : x = .ok a) :
  P a
  := by
  rw [hx] at h
  apply h

theorem Yields.any (x : Except ε α) :
  Yields x fun _ => True
  := by cases x <;> trivial

/-- If the first step gives a result with `P`, and the second step gives one with `Q` from each of
these, both together give a result with `Q`. -/
theorem Yields.bind (hx : Yields x P) (hf : ∀ a, P a → Yields (f a) Q) :
  Yields (x >>= f) Q
  := by
  cases x with
  | error e => trivial
  | ok a => apply hf a hx

theorem Yields.bind_any (hf : ∀ a, Yields (f a) Q) :
  Yields (x >>= f) Q
  := (Yields.any x).bind fun a _ => hf a

theorem Yields.map {g : α → β} (hx : Yields x P) (hg : ∀ a, P a → Q (g a)) :
  Yields (x.map g) Q
  := by
  cases x with
  | error e => trivial
  | ok a => apply hg a hx

/-- What each step preserves holds of the result of all steps if it holds at the start. -/
theorem Yields.foldlM {f : β → α → Except ε β} {as : List α} {b : β} (hb : Q b)
    (hf : ∀ b, ∀ a ∈ as, Q b → Yields (f b a) Q) :
  Yields (as.foldlM f b) Q
  := by
  induction as generalizing b with
  | nil => apply hb
  | cons a as ih =>
    rw [List.foldlM_cons]
    apply (hf b a List.mem_cons_self hb).bind
    intro b hb
    apply ih hb fun b a ha => hf b a (List.mem_cons_of_mem _ ha)

end

/-! ### Values -/

/-- The integers that can be written are those of 64 bits. -/
theorem inRange_iff {n : Int} :
  inRange n ↔ -2 ^ 63 ≤ n ∧ n ≤ 2 ^ 63 - 1
  := by
  have hmin : Int64.minValue.toInt = -2 ^ 63 := rfl
  have hmax : Int64.maxValue.toInt = 2 ^ 63 - 1 := rfl
  rw [inRange, hmin, hmax, Bool.and_eq_true, decide_eq_true_iff, decide_eq_true_iff]

/-- Integers of the value fit into 64 bits, and no table of it has two entries with the same key. -/
inductive Value.Sound : Value → Prop
  | string (s : String) : Sound (.string s)
  | integer {n : Int} (h : inRange n) : Sound (.integer n)
  | float (written : String) : Sound (.float written)
  | boolean (b : Bool) : Sound (.boolean b)
  | date (written : String) : Sound (.date written)
  | array {items : List Value} (h : ∀ v ∈ items, Sound v) : Sound (.array items)
  | table {t : Table} (keys : (t.map (·.1)).Nodup) (values : ∀ e ∈ t, Sound e.2) :
    Sound (.table t)

/-- No two entries of the table have the same key, and their values are sound. -/
structure Table.Sound (t : Table) : Prop where
  keys : (t.map (·.1)).Nodup
  values : ∀ e ∈ t, e.2.Sound

/-- A table is sound as a value exactly if it is as a table. -/
theorem Value.sound_table_iff {t : Table} :
  (Value.table t).Sound ↔ t.Sound
  := by
  constructor
  · intro h
    cases h with
    | table keys values => exact ⟨keys, values⟩
  · rintro ⟨keys, values⟩
    apply Value.Sound.table keys values

theorem Value.sound_integer_iff {n : Int} :
  (Value.integer n).Sound ↔ -2 ^ 63 ≤ n ∧ n ≤ 2 ^ 63 - 1
  := by
  rw [← inRange_iff]
  constructor
  · intro h
    cases h with
    | integer h => apply h
  · apply Value.Sound.integer

theorem Value.sound_array_iff {items : List Value} :
  (Value.array items).Sound ↔ ∀ v ∈ items, v.Sound
  := by
  constructor
  · intro h
    cases h with
    | array h => apply h
  · apply Value.Sound.array

namespace Table

variable {t : Table} {k : String} {v : Value}

theorem Sound.nil :
  Sound []
  := ⟨List.nodup_nil, nofun⟩

/-- What a sound table has under a key is sound. -/
theorem Sound.lookup (ht : t.Sound) (h : t.lookup k = some v) :
  v.Sound
  := ht.values (k, v) (mem_of_lookup_eq_some h)

/-- A sound table stays so if a sound value is put behind it under a key that it does not have. -/
theorem Sound.concat (ht : t.Sound) (hk : t.lookup k = none) (hv : v.Sound) :
  Sound (t ++ [(k, v)])
  where
  keys := by
    rw [List.map_append, List.nodup_append]
    refine ⟨ht.keys, List.nodup_singleton k, ?_⟩
    rintro _ ha b hb rfl
    rw [List.eq_of_mem_singleton hb] at ha
    apply lookup_eq_none_iff_not_mem.mp hk ha
  values e he := by
    rcases List.mem_append.mp he with he | he
    · apply ht.values e he
    · rw [List.eq_of_mem_singleton he]
      apply hv

/-- A sound table stays so if a sound value takes the place of the one under a key. -/
theorem Sound.replace (ht : t.Sound) (hv : v.Sound) :
  Sound (t.map fun e => if e.1 = k then (k, v) else e)
  where
  keys := by
    rw [List.map_map]
    convert ht.keys using 2
    funext e
    rw [Function.comp_apply]
    split
    next h => apply h.symm
    next => rfl
  values e he := by
    obtain ⟨e', he', rfl⟩ := List.mem_map.mp he
    split
    next => apply hv
    next => apply ht.values e' he'

end Table

/-! ### Tables under construction -/

namespace Entries

variable {entries : Entries} {k : String} {n : Node} {v : Value}

/-- The table is sound as it has been made so far. -/
def Sound (entries : Entries) : Prop :=
  entries.toTable.Sound

theorem toTable_eq_map (entries : Entries) :
  entries.toTable = entries.map fun e => (e.1, e.2.toValue)
  := by
  induction entries with
  | nil => rw [toTable, List.map_nil]
  | cons e entries ih => rw [toTable, ih, List.map_cons]

/-- An entry put behind the others comes last in the table. -/
theorem toTable_concat (entries : Entries) (k : String) (n : Node) :
  toTable (entries ++ [(k, n)]) = entries.toTable ++ [(k, n.toValue)]
  := by
  rw [toTable_eq_map, List.map_append, ← toTable_eq_map]
  rfl

/-- Replacing a node replaces its value in the table. -/
theorem toTable_replace (k : String) (n : Node) (entries : Entries) :
  (replace k n entries).toTable
    = entries.toTable.map fun e => if e.1 = k then (k, n.toValue) else e
  := by
  rw [replace, toTable_eq_map, toTable_eq_map, List.map_map, List.map_map]
  congr 1
  funext e
  rw [Function.comp_apply, Function.comp_apply]
  split <;> rfl

/-- The value under a key of the table is that of the node under the key. -/
theorem lookup_toTable (entries : Entries) (k : String) :
  entries.toTable.lookup k = (entries.lookup k).map Node.toValue
  := by
  induction entries with
  | nil => rw [toTable, List.lookup_nil, List.lookup_nil, Option.map_none]
  | cons e entries ih =>
    rw [toTable, List.lookup_cons, List.lookup_cons]
    split
    next => rfl
    next => apply ih

theorem Sound.nil :
  Sound []
  := by
  rw [Sound, toTable]
  apply Table.Sound.nil

/-- Sound entries stay so if a sound node is put behind them under a new key. -/
theorem Sound.concat (h : entries.Sound) (hk : entries.lookup k = none) (hn : n.toValue.Sound) :
  Sound (entries ++ [(k, n)])
  := by
  rw [Sound, toTable_concat]
  apply Table.Sound.concat h _ hn
  rw [lookup_toTable, hk]
  rfl

/-- Sound entries stay so if a sound node takes the place of the one under a key. -/
theorem Sound.replace (h : entries.Sound) (hn : n.toValue.Sound) :
  Sound (replace k n entries)
  := by
  rw [Sound, toTable_replace]
  apply Table.Sound.replace h hn

theorem Sound.lookup (h : entries.Sound) (hk : entries.lookup k = some n) :
  n.toValue.Sound
  := by
  apply Table.Sound.lookup h
  rw [lookup_toTable, hk]
  rfl

theorem sound_table_iff {origin : Origin} :
  (Node.table origin entries).toValue.Sound ↔ entries.Sound
  := by rw [Node.toValue, Value.sound_table_iff, Sound]

/-- A list of tables is sound if the earlier ones are and the last one is. -/
theorem sound_tables_iff {earlier : List Value} :
  (Node.tables earlier entries).toValue.Sound ↔ (∀ v ∈ earlier, v.Sound) ∧ entries.Sound
  := by
  rw [Node.toValue, Value.sound_array_iff, List.forall_mem_append, List.forall_mem_singleton,
    Value.sound_table_iff, Sound]

/-- A change of tables keeps them sound. -/
def Keeps (change : Entries → Except TomlError Entries) : Prop :=
  ∀ entries : Entries, entries.Sound → Yields (change entries) Sound

/-- A change that keeps entries sound does so wherever it is made, in the table at a path. -/
theorem keeps_within {made origin : Origin} {isOpen : Origin → Bool}
    {change : Origin → Entries → Except TomlError Entries} (h : ∀ origin, Keeps (change origin))
    (path : List String) :
  Keeps (within made isOpen change origin path)
  := by
  induction path generalizing origin with
  | nil =>
    intro entries hentries
    rw [within]
    apply h origin entries hentries
  | cons k path ih =>
    intro entries hentries
    rw [within]
    split
    next hk =>
      apply (ih [] .nil).bind
      intro inner hinner
      apply hentries.concat hk (sound_table_iff.mpr hinner)
    next => trivial
    next origin inner hk =>
      split
      next =>
        have hinner := sound_table_iff.mp (hentries.lookup hk)
        apply (ih inner hinner).bind
        intro inner hinner
        apply hentries.replace (sound_table_iff.mpr hinner)
      next => trivial
    next earlier latest hk =>
      obtain ⟨hearlier, hlatest⟩ := sound_tables_iff.mp (hentries.lookup hk)
      apply (ih latest hlatest).bind
      intro latest hlatest
      apply hentries.replace (sound_tables_iff.mpr ⟨hearlier, hlatest⟩)

/-- A change that keeps entries sound does so in the table that a header names. -/
theorem keeps_atHeader {change : Entries → Except TomlError Entries} (h : Keeps change)
    (path : List String) :
  Keeps (atHeader change path)
  := keeps_within (fun _ => h) path

theorem keeps_openTable (k : String) :
  Keeps (openTable k)
  := by
  intro entries h
  rw [openTable]
  split
  next hk => apply h.concat hk (sound_table_iff.mpr .nil)
  next inner hk =>
    have hinner := sound_table_iff.mp (h.lookup hk)
    apply h.replace (sound_table_iff.mpr hinner)
  next => trivial

theorem keeps_openNext (k : String) :
  Keeps (openNext k)
  := by
  intro entries h
  rw [openNext]
  split
  next hk => apply h.concat hk (sound_tables_iff.mpr ⟨List.forall_mem_nil _, .nil⟩)
  next earlier latest hk =>
    obtain ⟨hearlier, hlatest⟩ := sound_tables_iff.mp (h.lookup hk)
    apply h.replace (sound_tables_iff.mpr ⟨_, .nil⟩)
    rw [List.forall_mem_append, List.forall_mem_singleton]
    use hearlier, Value.sound_table_iff.mpr hlatest
  next => trivial

theorem keeps_add (k : String) (hv : v.Sound) :
  Keeps (add k v)
  := by
  intro entries h
  rw [add]
  split
  next hk =>
    apply h.concat hk
    rwa [Node.toValue]
  next => trivial

/-- Giving a sound value to the key at a path keeps entries sound. -/
theorem keeps_assignAt (path : List String) (hv : v.Sound) :
  Keeps (assignAt path v)
  := by
  intro entries h
  rw [assignAt]
  split
  next => apply h
  next k tables _ =>
    unfold assign
    split
    next => apply keeps_add k hv entries h
    next =>
      apply keeps_within _ _ entries h
      intro origin inner hinner
      split
      next => apply keeps_add k hv inner hinner
      next => trivial

end Entries

/-! ### Reading -/

variable {fuel : Nat} {cs : List Char}

theorem yields_unexpected {α : Type} (cs : List Char) (P : α → Prop) :
  Yields (unexpected cs) P
  := by cases cs <;> trivial

/-- A value that is written as a word is sound: its integers are in range. -/
theorem yields_ofWord (word : List Char) :
  Yields (ofWord word) Value.Sound
  := by
  fun_cases ofWord word with
  | case1 => apply Value.Sound.boolean
  | case2 => apply Value.Sound.boolean
  | case3 => apply Value.Sound.date
  | case4 => apply Value.Sound.float
  | case5 _ _ _ _ _ n _ h => apply Value.Sound.integer h
  | case6 => trivial
  | case7 => trivial

/-- A value that is no array and no table is sound. -/
theorem yields_scalar (cs : List Char) :
  Yields (scalar cs) fun taken => taken.1.Sound
  := by
  have hword (word rest : List Char) :
      Yields (do return (← ofWord word, rest)) fun taken => taken.1.Sound := by
    apply (yields_ofWord word).bind
    intro v hv
    apply hv
  fun_cases scalar cs with
  | case1 => apply yields_unexpected
  | case2 => apply hword
  | case3 => apply hword
  | case4 => apply hword

/-- What is taken for a value, with parts nested no deeper than the fuel says, is sound. -/
structure ReadsSound (fuel : Nat) : Prop where
  value : ∀ cs, Yields (value fuel cs) fun taken => taken.1.Sound
  items : ∀ acc cs, (∀ v ∈ acc, v.Sound) → Yields (items fuel acc cs) fun taken => taken.1.Sound
  members : ∀ entries cs, Entries.Sound entries →
    Yields (members fuel entries cs) fun taken => taken.1.Sound

/-- A value is sound if the values inside of it are, which are read with less fuel. -/
theorem yields_value (h : ∀ n < fuel, ReadsSound n) (cs : List Char) :
  Yields (value fuel cs) fun taken => taken.1.Sound
  := by
  fun_cases value fuel cs with
  | case1 => apply yields_unexpected
  | case2 fuel => apply (h fuel fuel.lt_succ_self).items [] _ nofun
  | case3 => apply Value.sound_table_iff.mpr .nil
  | case4 fuel => apply (h fuel fuel.lt_succ_self).members [] _ .nil
  | case5 =>
    apply (Yields.any _).map
    intro s _
    apply Value.Sound.string
  | case6 => apply yields_scalar

/-- The items of an array are sound if those in front are. -/
theorem yields_items (h : ∀ n < fuel, ReadsSound n) {acc : List Value} (hacc : ∀ v ∈ acc, v.Sound)
    (cs : List Char) :
  Yields (items fuel acc cs) fun taken => taken.1.Sound
  := by
  have harray {acc : List Value} (hacc : ∀ v ∈ acc, v.Sound) :
      (Value.array acc.reverse).Sound := by
    apply Value.Sound.array
    simpa using hacc
  fun_cases items fuel acc cs with
  | case1 => apply yields_unexpected
  | case2 fuel =>
    replace h := h fuel fuel.lt_succ_self
    apply Yields.bind_any
    intro cs
    split
    next => apply harray hacc
    next =>
      apply (h.value cs).bind
      intro ⟨v, cs⟩ hv
      replace hacc : ∀ w ∈ v :: acc, w.Sound := List.forall_mem_cons.mpr ⟨hv, hacc⟩
      apply Yields.bind_any
      intro cs
      split
      next => apply h.items _ _ hacc
      next => apply harray hacc
      next => apply yields_unexpected

/-- The table between braces is sound if the entries in front are. -/
theorem yields_members (h : ∀ n < fuel, ReadsSound n) {entries : Entries}
    (hentries : entries.Sound) (cs : List Char) :
  Yields (members fuel entries cs) fun taken => taken.1.Sound
  := by
  fun_cases members fuel entries cs with
  | case1 => apply yields_unexpected
  | case2 fuel =>
    replace h := h fuel fuel.lt_succ_self
    apply Yields.bind_any
    intro ⟨path, cs⟩
    apply Yields.bind_any
    intro cs
    apply (h.value _).bind
    intro ⟨v, cs⟩ hv
    apply (Entries.keeps_assignAt path hv entries hentries).bind
    intro entries hentries
    split
    next => apply h.members _ _ hentries
    next => apply Value.sound_table_iff.mpr hentries
    next => apply yields_unexpected

/-- Values are sound with any fuel, by induction on it. -/
theorem readsSound (fuel : Nat) :
  ReadsSound fuel
  := by
  induction fuel using Nat.strongRecOn with
  | ind fuel ih =>
    constructor
    · apply yields_value ih
    · intro acc cs hacc
      apply yields_items ih hacc cs
    · intro entries cs hentries
      apply yields_members ih hentries cs

/-- The value that a statement gives a key is sound. -/
def Statement.Sound : Statement → Prop
  | .entry _ v => v.Sound
  | _ => True

/-- The values of a statement are sound. -/
theorem yields_statement (cs : List Char) :
  Yields (statement cs) fun taken => taken.1.Sound
  := by
  fun_cases statement cs with
  | case1 =>
    apply Yields.bind_any
    intro ⟨path, cs⟩
    apply Yields.bind_any
    intro cs
    apply Yields.bind_any
    intro cs
    apply Yields.bind_any
    intro cs
    trivial
  | case2 =>
    apply Yields.bind_any
    intro ⟨path, cs⟩
    apply Yields.bind_any
    intro cs
    apply Yields.bind_any
    intro cs
    trivial
  | case3 => trivial
  | case4 =>
    apply Yields.bind_any
    intro cs
    trivial
  | case5 =>
    apply Yields.bind_any
    intro ⟨path, cs⟩
    apply Yields.bind_any
    intro cs
    apply ((readsSound _).value _).bind
    intro ⟨v, cs⟩ hv
    apply Yields.bind_any
    intro cs
    apply hv

theorem yields_statements (fuel : Nat) (cs : List Char) :
  Yields (statements fuel cs) fun ss => ∀ s ∈ ss, s.Sound
  := by
  fun_induction statements fuel cs with
  | case1 => apply List.forall_mem_nil
  | case2 => apply yields_unexpected
  | case3 _ _ _ ih =>
    apply (yields_statement _).bind
    intro ⟨s, cs⟩ hs
    apply (ih cs).bind
    intro ss hss
    apply List.forall_mem_cons.mpr ⟨hs, hss⟩

/-! ### Documents -/

namespace Draft

variable {d : Draft}

/-- Opening the table at a path keeps the document sound. -/
theorem yields_openAt {opening : String → Entries → Except TomlError Entries}
    (h : ∀ k, Entries.Keeps (opening k)) (hd : d.root.Sound) (path : List String) :
  Yields (d.openAt path opening) fun d => d.root.Sound
  := by
  rw [openAt]
  split
  next => apply hd
  next k outer _ =>
    apply (Entries.keeps_atHeader (h k) outer.reverse d.root hd).bind
    intro root hroot
    apply hroot

/-- A statement keeps the document sound. -/
theorem yields_run {s : Statement} (hs : s.Sound) (hd : d.root.Sound) :
  Yields (d.run s) fun d => d.root.Sound
  := by
  cases s with
  | header path => apply yields_openAt Entries.keeps_openTable hd
  | itemHeader path => apply yields_openAt Entries.keeps_openNext hd
  | entry path v =>
    apply (Entries.keeps_atHeader (Entries.keeps_assignAt path hs) d.current d.root hd).bind
    intro root hroot
    apply hroot
  | blank => apply hd

end Draft

/-- A document is read as a sound table. -/
theorem yields_read (text : String) :
  Yields (read text) Table.Sound
  := by
  apply (yields_statements _ _).bind
  intro ss hss
  have hrun : Yields (ss.foldlM Draft.run {}) fun d => d.root.Sound := by
    apply Yields.foldlM (Q := fun d : Draft => d.root.Sound) Entries.Sound.nil
    intro d s hs hd
    apply Draft.yields_run (hss s hs) hd
  apply hrun.bind
  intro d hd
  apply hd

end Toml

end Highlight
