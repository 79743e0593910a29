import Highlight.Proofs.Program
import Highlight.Proofs.Tables

/-!
# Settings

A document says settings if it has no other keys than they have, the values are of the right types,
and the names of kinds and colors are known.  A setting that is not written has its default value.
The names have been looked up once when the document is read, so looking them up later cannot fail,
and a theme made of them changes the color of just the kinds that are named.
-/

namespace Highlight

/-- The fault is a name that is not known. -/
def ConfigError.IsUnknownName : ConfigError → Prop
  | unknownKind _ => True
  | unknownColor _ _ => True
  | _ => False

/-! ### Themes -/

namespace Theme

/-- The theme gives kinds their colors in the pairs, and changes nothing else. -/
structure Recolors (t : Theme) (pairs : List (TokenKind × Color)) : Prop where
  given : ∀ k color, (k, color) ∈ pairs → t.style k = k.defaultStyle.withColor color
  other : ∀ k, k ∉ pairs.map (·.1) → t.style k = k.defaultStyle

/-- If no kind has two colors, it does not matter in which order the colors are given. -/
theorem recolors_ofColors {pairs shuffled : List (TokenKind × Color)}
    (hkinds : (pairs.map (·.1)).Nodup) (h : shuffled.Perm pairs) :
  (ofColors shuffled).Recolors pairs
  := by
  have hreverse : shuffled.reverse.Perm pairs := (List.reverse_perm shuffled).trans h
  have hkinds' := (hreverse.map (·.1)).nodup_iff.mpr hkinds
  constructor
  · intro k color hmem
    rw [style, ofColors, lookup_eq_some_of_mem hkinds' (hreverse.mem_iff.mpr hmem)]
  · intro k hk
    rw [style, ofColors, lookup_eq_none_iff_not_mem.mpr]
    rwa [(hreverse.map (·.1)).mem_iff]

end Theme

namespace Config

/-! ### Entries -/

/-- A table of strings. -/
def tableOf (names : List (String × String)) : Toml.Value :=
  .table (names.map fun name => (name.1, .string name.2))

/-- The value may be written for the key. -/
inductive Allows : String → Toml.Value → Prop
  | interval {n : Int} (hn : 0 ≤ n) (hn' : n ≤ 2 ^ 63 - 1) : Allows "poll-interval-ms" (.integer n)
  | pipelineGrammar (s : String) : Allows "pipeline-grammar" (.string s)
  | shellGrammar (s : String) : Allows "shell-grammar" (.string s)
  | color (b : Bool) : Allows "color" (.boolean b)
  | colors (names : List (String × String)) : Allows "colors" (tableOf names)

/-- The keys of settings. -/
def keys : List String :=
  ["poll-interval-ms", "pipeline-grammar", "shell-grammar", "color", "colors"]

/-- The value is taken for the key: it is allowed, or it is a date in place of the colors. -/
def Takes (key : String) (v : Toml.Value) : Prop :=
  Allows key v ∨ key = "colors" ∧ ∃ written, v = .date written

def natural? : Toml.Value → Option Nat
  | .integer n => some n.toNat
  | _ => none

def string? : Toml.Value → Option String
  | .string s => some s
  | _ => none

def boolean? : Toml.Value → Option Bool
  | .boolean b => some b
  | _ => none

/-- The names in a table of strings.  A date is read as a name that is no kind of token. -/
def names? : Toml.Value → Option (List (String × String))
  | .table entries => some (entries.filterMap fun e => (string? e.2).map (e.1, ·))
  | .date written => some [(dateKey, written)]
  | _ => none

/-- What the value of the key is read as, or what holds instead. -/
def setting {α : Type} (table : Toml.Table) (key : String) (read? : Toml.Value → Option α)
    (absent : α) : α :=
  ((table.lookup key).bind read?).getD absent

/-- The settings with those that the table says in their place. -/
def overlay (table : Toml.Table) (c : Config) : Config where
  pollInterval := setting table "poll-interval-ms" natural? c.pollInterval
  pipelineGrammar := setting table "pipeline-grammar" string? c.pipelineGrammar
  shellGrammar := setting table "shell-grammar" string? c.shellGrammar
  color := setting table "color" boolean? c.color
  colors := setting table "colors" names? c.colors

/-- The settings that the table says.  The interval is at least 10. -/
def settings (table : Toml.Table) : Config where
  pollInterval := max (setting table "poll-interval-ms" natural? 1000) 10
  pipelineGrammar := setting table "pipeline-grammar" string? Builtin.pipelineId
  shellGrammar := setting table "shell-grammar" string? Builtin.shellId
  color := setting table "color" boolean? true
  colors := setting table "colors" names? []

variable {c : Config} {k key text : String} {v : Toml.Value} {e : ConfigError}
  {names : List (String × String)} {table : Toml.Table}

/-- A setting that is not a string is reported as of the wrong type. -/
theorem stringOf_cases (key : String) (v : Toml.Value) :
  (∃ s, v = .string s) ∨ stringOf key v = .error (.wrongType key)
  := by
  fun_cases stringOf key v with
  | case1 s => exact .inl ⟨s, rfl⟩
  | case2 => exact .inr rfl

theorem names?_tableOf (names : List (String × String)) :
  names? (tableOf names) = some names
  := by
  rw [tableOf, names?, List.filterMap_map]
  simp [Function.comp_def, string?]

/-- The names in a table of strings are read as they are. -/
theorem colorsOf_tableOf (key : String) (names : List (String × String)) :
  colorsOf key (tableOf names) = .ok names
  := by
  rw [tableOf, colorsOf, mapM_eq_ok_iff, List.forall₂_map_left_iff, List.forall₂_same]
  intro name _
  rfl

/-- A table either has only strings or is reported for one of its keys. -/
theorem colorsOf_table_cases (key : String) (t : Toml.Table) :
  (∃ names, .table t = tableOf names) ∨ ∃ inner, colorsOf key (.table t) = .error (.wrongType inner)
  := by
  induction t with
  | nil => exact .inl ⟨[], rfl⟩
  | cons entry t ih =>
    obtain ⟨k, v⟩ := entry
    rcases stringOf_cases k v with ⟨s, rfl⟩ | hs
    · rcases ih with ⟨names, ht⟩ | ⟨inner, herror⟩
      · left
        use (k, s) :: names
        cases ht
        rfl
      · right
        use inner
        rw [colorsOf] at herror
        rw [colorsOf, List.mapM_cons, herror]
        rfl
    · right
      use k
      rw [colorsOf, List.mapM_cons]
      dsimp only
      rw [hs]
      rfl

/-- What is given for the colors is a table of strings or a date, or it is reported. -/
theorem colorsOf_cases (key : String) (v : Toml.Value) :
  (∃ names, v = tableOf names) ∨ (∃ written, v = .date written) ∨
    ∃ inner, colorsOf key v = .error (.wrongType inner)
  := by
  fun_cases colorsOf key v with
  | case1 t =>
    rcases colorsOf_table_cases key t with hnames | herror
    · exact .inl hnames
    · exact .inr (.inr herror)
  | case2 written => exact .inr (.inl ⟨written, rfl⟩)
  | case3 => exact .inr (.inr ⟨key, rfl⟩)

/-- The faults of an entry that is not taken. -/
inductive Fault (key : String) : ConfigError → Prop
  | unknownKey (hk : key ∉ keys) : Fault key (.unknownKey key)
  | wrongType (hk : key ∈ keys) (inner : String) : Fault key (.wrongType inner)

/-- An entry that is not taken is reported, as an unknown key or as of the wrong type. -/
theorem exists_fault {entry : String × Toml.Value} (hv : entry.2.Sound)
    (h : ¬Takes entry.1 entry.2) (c : Config) :
  ∃ e, Fault entry.1 e ∧ c.set entry = .error e
  := by
  fun_cases c.set entry with
  | case1 n hn =>
    apply absurd _ h
    apply Or.inl (Allows.interval hn (Toml.Value.sound_integer_iff.mp hv).2)
  | case2 => exact ⟨_, .wrongType (by simp [keys]) _, rfl⟩
  | case3 => exact ⟨_, .wrongType (by simp [keys]) _, rfl⟩
  | case4 v =>
    rcases stringOf_cases "pipeline-grammar" v with ⟨s, rfl⟩ | hs
    · apply absurd (Or.inl (Allows.pipelineGrammar s)) h
    · rw [hs]
      exact ⟨_, .wrongType (by simp [keys]) _, rfl⟩
  | case5 v =>
    rcases stringOf_cases "shell-grammar" v with ⟨s, rfl⟩ | hs
    · apply absurd (Or.inl (Allows.shellGrammar s)) h
    · rw [hs]
      exact ⟨_, .wrongType (by simp [keys]) _, rfl⟩
  | case6 b => apply absurd (Or.inl (Allows.color b)) h
  | case7 => exact ⟨_, .wrongType (by simp [keys]) _, rfl⟩
  | case8 v =>
    rcases colorsOf_cases "colors" v with ⟨names, rfl⟩ | ⟨written, rfl⟩ | ⟨inner, hcolors⟩
    · apply absurd (Or.inl (Allows.colors names)) h
    · apply absurd (Or.inr ⟨rfl, written, rfl⟩) h
    · rw [hcolors]
      exact ⟨_, .wrongType (by simp [keys]) _, rfl⟩
  | case9 key v _ hinterval hpipeline hshell _ hcolor hcolors =>
    exact ⟨_, .unknownKey (by simp_all [keys]), rfl⟩

/-- An entry that is taken replaces the setting of its key and no other. -/
theorem set_of_takes (c : Config) (h : Takes k v) :
  c.set (k, v) = .ok (overlay [(k, v)] c)
  := by
  rcases h with (⟨hn, -⟩ | s | s | b | names) | ⟨rfl, written, rfl⟩
  · simp [set, hn, overlay, setting, natural?, List.lookup_cons]
  · simp [set, overlay, setting, List.lookup_cons, string?, stringOf]
  · simp [set, overlay, setting, List.lookup_cons, string?, stringOf]
  · simp [set, overlay, setting, List.lookup_cons, boolean?]
  · simp [set, overlay, setting, List.lookup_cons, names?_tableOf, colorsOf_tableOf]
  · simp [set, overlay, setting, List.lookup_cons, names?, colorsOf]

/-! ### Tables -/

/-- What a first entry says is what is there when the others are read, as no other has its key. -/
theorem setting_cons {α : Type} {read? : Toml.Value → Option α} (hk : k ∉ table.map (·.1))
    (v : Toml.Value) (key : String) (absent : α) :
  setting ((k, v) :: table) key read? absent
    = setting table key read? (setting [(k, v)] key read? absent)
  := by
  rw [setting, setting, setting, List.lookup_cons, List.lookup_cons]
  cases hkey : key == k with
  | true =>
    rw [beq_iff_eq] at hkey
    subst hkey
    rw [lookup_eq_none_iff_not_mem.mpr hk]
    rfl
  | false =>
    cases table.lookup key <;> rfl

/-- Tables can be laid over settings entry by entry. -/
theorem overlay_cons (hk : k ∉ table.map (·.1)) (v : Toml.Value) (c : Config) :
  overlay ((k, v) :: table) c = overlay table (overlay [(k, v)] c)
  := by simp only [overlay, setting_cons hk]

/-- If all entries are taken, the settings are those that the table says. -/
theorem foldlM_set_of_takes (hkeys : (table.map (·.1)).Nodup)
    (h : ∀ entry ∈ table, Takes entry.1 entry.2) (c : Config) :
  table.foldlM set c = .ok (overlay table c)
  := by
  induction table generalizing c with
  | nil => rfl
  | cons entry table ih =>
    obtain ⟨k, v⟩ := entry
    rw [List.map_cons, List.nodup_cons] at hkeys
    rw [List.forall_mem_cons] at h
    rw [List.foldlM_cons, set_of_takes c h.1, overlay_cons hkeys.1]
    apply ih hkeys.2 h.2

/-- A sound table of entries that are taken is read as the settings that it says. -/
theorem ofTable_of_takes (ht : table.Sound) (h : ∀ entry ∈ table, Takes entry.1 entry.2) :
  ofTable table = .ok (settings table)
  := by
  rw [ofTable, foldlM_set_of_takes ht.keys h]
  rfl

/-- If not all entries are taken, the first that is not is reported. -/
theorem exists_fault_foldlM_set (ht : ∀ entry ∈ table, entry.2.Sound)
    (h : ¬∀ entry ∈ table, Takes entry.1 entry.2) (c : Config) :
  ∃ entry ∈ table, ¬Takes entry.1 entry.2 ∧ ∃ e, Fault entry.1 e ∧ table.foldlM set c = .error e
  := by
  induction table generalizing c with
  | nil => apply absurd (List.forall_mem_nil _) h
  | cons entry table ih =>
    rw [List.forall_mem_cons] at ht
    rcases Classical.em (Takes entry.1 entry.2) with htakes | htakes
    · rw [List.forall_mem_cons, not_and] at h
      obtain ⟨entry', hentry', hfault⟩ := ih ht.2 (h htakes) (overlay [entry] c)
      rw [List.foldlM_cons, set_of_takes c htakes]
      exact ⟨entry', List.mem_cons_of_mem _ hentry', hfault⟩
    · obtain ⟨e, hfault, hset⟩ := exists_fault ht.1 htakes c
      refine ⟨entry, List.mem_cons_self, htakes, e, hfault, ?_⟩
      rw [List.foldlM_cons, hset]
      rfl

/-- A table with an entry that is not taken is reported for such an entry. -/
theorem exists_fault_ofTable (ht : table.Sound) (h : ¬∀ entry ∈ table, Takes entry.1 entry.2) :
  ∃ entry ∈ table, ¬Takes entry.1 entry.2 ∧ ∃ e, Fault entry.1 e ∧ ofTable table = .error e
  := by
  obtain ⟨entry, hentry, htakes, e, hfault, hset⟩ := exists_fault_foldlM_set ht.values h {}
  refine ⟨entry, hentry, htakes, e, hfault, ?_⟩
  rw [ofTable, hset]
  rfl

/-! ### Names -/

/-- The kind and the color of a name. -/
def Names (name : String × String) (pair : TokenKind × Color) : Prop :=
  TokenKind.ofName? name.1 = some pair.1 ∧ Color.ofName? name.2 = some pair.2

/-- The name is that of a kind, and a color is given to it. -/
def Resolves (name : String × String) : Prop :=
  (TokenKind.ofName? name.1).isSome ∧ (Color.ofName? name.2).isSome

/-- The fault that a name is not known. -/
def unresolved (name : String × String) : ConfigError :=
  match TokenKind.ofName? name.1 with
  | none => .unknownKind name.1
  | some _ => .unknownColor name.1 name.2

theorem Names.resolves {name : String × String} {pair : TokenKind × Color} (h : Names name pair) :
  Resolves name
  := by
  rw [Resolves, h.1, h.2]
  exact ⟨rfl, rfl⟩

/-- A name is looked up as the pair that it names, or it is reported as unknown. -/
theorem colorEntry_cases (name : String × String) :
  (∃ pair, Names name pair ∧ colorEntry name = .ok pair) ∨
    ¬Resolves name ∧ colorEntry name = .error (unresolved name)
  := by
  rw [Resolves, unresolved]
  fun_cases colorEntry name with
  | case1 kind color hkind =>
    rw [hkind]
    exact .inr ⟨nofun, rfl⟩
  | case2 kind color _ hkind hcolor =>
    rw [hkind, hcolor]
    exact .inr ⟨nofun, rfl⟩
  | case3 kind color k c hcolor hkind => exact .inl ⟨(k, c), ⟨hkind, hcolor⟩, rfl⟩

/-- Either all names of the colors are known, or one that is not is reported. -/
theorem tokenColors_cases (c : Config) :
  (∃ pairs, List.Forall₂ Names c.colors pairs ∧ c.tokenColors = .ok pairs) ∨
    ∃ name ∈ c.colors, ¬Resolves name ∧ c.tokenColors = .error (unresolved name)
  := by
  cases hcolors : c.tokenColors with
  | ok pairs =>
    left
    refine ⟨pairs, (mapM_eq_ok_iff.mp hcolors).imp ?_, rfl⟩
    intro name pair hentry
    rcases colorEntry_cases name with ⟨pair', hnames, hpair⟩ | ⟨-, herror⟩
    · rw [hpair] at hentry
      cases hentry
      apply hnames
    · rw [herror] at hentry
      cases hentry
  | error e =>
    right
    obtain ⟨name, hname, hentry⟩ := exists_of_mapM_eq_error hcolors
    rcases colorEntry_cases name with ⟨pair, -, hpair⟩ | ⟨hresolves, herror⟩
    · rw [hpair] at hentry
      cases hentry
    · rw [herror] at hentry
      cases hentry
      exact ⟨name, hname, hresolves, rfl⟩

theorem resolves_of_names {pairs : List (TokenKind × Color)} (h : List.Forall₂ Names names pairs) :
  ∀ name ∈ names, Resolves name
  := by
  have hboth := h.imp fun name pair hnames => And.intro hnames.resolves hnames
  exact ((List.forall₂_and_left _ _).mp hboth).1

/-! ### Reading -/

/-- The text is a document that says the settings. -/
structure Says (text : String) (c : Config) : Prop where
  exists_table : ∃ table, Toml.read text = .ok table ∧ (∀ entry ∈ table, Allows entry.1 entry.2) ∧
    settings table = c
  resolves : ∀ name ∈ c.colors, Resolves name

/-- The ways in which the text is no configuration, with what they are reported as. -/
inductive Fails (text : String) : ConfigError → Prop
  | toml {cause : TomlError} (h : Toml.read text = .error cause) : Fails text (.toml cause)
  | entry {table : Toml.Table} {entry : String × Toml.Value} {e : ConfigError}
    (h : Toml.read text = .ok table) (hmem : entry ∈ table) (htakes : ¬Takes entry.1 entry.2)
    (hfault : Fault entry.1 e) : Fails text e
  | name {table : Toml.Table} {name : String × String} (h : Toml.read text = .ok table)
    (htakes : ∀ entry ∈ table, Takes entry.1 entry.2) (hmem : name ∈ (settings table).colors)
    (hresolves : ¬Resolves name) : Fails text (unresolved name)

theorem parse_eq_of_read (h : Toml.read text = .ok table) :
  parse text = (do
    let c ← ofTable table
    let _ ← c.tokenColors
    return c)
  := by
  rw [parse, h]
  rfl

/-- A text is either read as the settings of its table, whose names are known, or it fails in one of
the ways that are reported. -/
theorem parse_cases (text : String) :
  (∃ table pairs, Toml.read text = .ok table ∧ (∀ entry ∈ table, Takes entry.1 entry.2) ∧
    List.Forall₂ Names (settings table).colors pairs ∧
    (settings table).tokenColors = .ok pairs ∧ parse text = .ok (settings table)) ∨
  ∃ e, Fails text e ∧ parse text = .error e
  := by
  cases hread : Toml.read text with
  | error cause =>
    right
    refine ⟨_, .toml hread, ?_⟩
    rw [parse, hread]
    rfl
  | ok table =>
    have ht := (Toml.yields_read text).elim hread
    rw [parse_eq_of_read hread]
    rcases Classical.em (∀ entry ∈ table, Takes entry.1 entry.2) with htakes | htakes
    · rw [ofTable_of_takes ht htakes]
      rcases tokenColors_cases (settings table) with
        ⟨pairs, hnames, hcolors⟩ | ⟨name, hname, hresolves, hcolors⟩
      · left
        refine ⟨table, pairs, rfl, htakes, hnames, hcolors, ?_⟩
        dsimp only [bind, Except.bind]
        rw [hcolors]
        rfl
      · right
        refine ⟨_, .name hread htakes hname hresolves, ?_⟩
        dsimp only [bind, Except.bind]
        rw [hcolors]
    · right
      obtain ⟨entry, hentry, htakes, e, hfault, herror⟩ := exists_fault_ofTable ht htakes
      refine ⟨e, .entry hread hentry htakes hfault, ?_⟩
      rw [herror]
      rfl

/-! ### Usable settings -/

theorem colors_settings (table : Toml.Table) :
  (settings table).colors = ((table.lookup "colors").bind names?).getD []
  := rfl

/-- The name that a date is read as is that of no kind of token. -/
theorem not_resolves_dateKey (written : String) :
  ¬Resolves (dateKey, written)
  := by
  rintro ⟨hkind, -⟩
  have hnone : TokenKind.ofName? dateKey = none := by decide
  rw [hnone] at hkind
  cases hkind

/-- Where all names are known, no date stands in place of the colors. -/
theorem allows_of_takes (hkeys : (table.map (·.1)).Nodup)
    (hresolves : ∀ name ∈ (settings table).colors, Resolves name) (hmem : (k, v) ∈ table)
    (h : Takes k v) :
  Allows k v
  := by
  rcases h with h | ⟨rfl, written, rfl⟩
  · apply h
  · rw [colors_settings, lookup_eq_some_of_mem hkeys hmem] at hresolves
    apply absurd (hresolves _ List.mem_cons_self) (not_resolves_dateKey written)

/-- Just tables of strings and dates are taken for the colors. -/
theorem takes_colors_iff :
  Takes "colors" v ↔ (∃ names, v = tableOf names) ∨ ∃ written, v = .date written
  := by
  constructor
  · rintro (h | ⟨-, h⟩)
    · generalize hkey : "colors" = key at h
      cases h with
      | colors names => exact .inl ⟨names, rfl⟩
      | _ => simp at hkey
    · exact .inr h
  · rintro (⟨names, rfl⟩ | h)
    · exact .inl (.colors names)
    · exact .inr ⟨rfl, h⟩

/-- No name has two colors, as no key of a table is written twice. -/
theorem nodup_colors_settings (ht : table.Sound) (h : ∀ entry ∈ table, Takes entry.1 entry.2) :
  ((settings table).colors.map (·.1)).Nodup
  := by
  rw [colors_settings]
  cases hlookup : table.lookup "colors" with
  | none => apply List.nodup_nil
  | some v =>
    have hmem := mem_of_lookup_eq_some hlookup
    rw [Option.bind_some]
    rcases takes_colors_iff.mp (h _ hmem) with ⟨names, rfl⟩ | ⟨written, rfl⟩
    · have hkeys := (Toml.Value.sound_table_iff.mp (ht.values _ hmem)).keys
      rw [List.map_map] at hkeys
      rw [names?_tableOf]
      apply hkeys
    · apply List.nodup_singleton

/-- The settings that are read from a text are those that it says. -/
theorem parse_eq_ok_iff :
  parse text = .ok c ↔ Says text c
  := by
  rcases parse_cases text with
    ⟨table, pairs, hread, htakes, hnames, -, hparse⟩ | ⟨e, hfails, hparse⟩
  · have ht := (Toml.yields_read text).elim hread
    have hresolves := resolves_of_names hnames
    rw [hparse, Except.ok.injEq]
    constructor
    · rintro rfl
      refine ⟨⟨table, hread, ?_, rfl⟩, hresolves⟩
      intro entry hmem
      apply allows_of_takes ht.keys hresolves hmem (htakes entry hmem)
    · rintro ⟨⟨table', hread', -, rfl⟩, -⟩
      rw [hread] at hread'
      cases hread'
      rfl
  · rw [hparse]
    apply iff_of_false nofun
    rintro ⟨⟨table, hread, hallows, rfl⟩, hresolves⟩
    cases hfails with
    | toml h =>
      rw [hread] at h
      cases h
    | entry h hmem htakes =>
      rw [hread] at h
      cases h
      apply htakes (.inl (hallows _ hmem))
    | name h _ hmem hnot =>
      rw [hread] at h
      cases h
      apply hnot (hresolves _ hmem)

theorem isUnknownName_unresolved (name : String × String) :
  (unresolved name).IsUnknownName
  := by
  rw [unresolved]
  split <;> trivial

/-- What is wrong with an entry is never that a name is not known. -/
theorem Fault.not_isUnknownName (h : Fault key e) :
  ¬e.IsUnknownName
  := by cases h <;> exact id

/-- A failure is about a name exactly if all entries of the document are taken. -/
theorem Fails.isUnknownName_iff (h : Fails text e) :
  e.IsUnknownName ↔
    ∃ table, Toml.read text = .ok table ∧ ∀ entry ∈ table, Takes entry.1 entry.2
  := by
  cases h with
  | toml h =>
    apply iff_of_false id
    rintro ⟨table, hread, -⟩
    rw [h] at hread
    cases hread
  | entry h hmem htakes hfault =>
    apply iff_of_false hfault.not_isUnknownName
    rintro ⟨table, hread, hall⟩
    rw [h] at hread
    cases hread
    apply htakes (hall _ hmem)
  | name h htakes => exact iff_of_true (isUnknownName_unresolved _) ⟨_, h, htakes⟩

/-- Settings that have been read can be used: the names of their colors are those of kinds and
colors, one for each, and a theme of these gives just these kinds their colors, in whatever order
they come. -/
structure Usable (c : Config) : Prop where
  keys : (c.colors.map (·.1)).Nodup
  exists_pairs : ∃ pairs, c.tokenColors = .ok pairs ∧ List.Forall₂ Names c.colors pairs ∧
    ((c.colors.map fun name => TokenKind.ofName? name.1).Nodup →
      ∀ shuffled, shuffled.Perm pairs → (Theme.ofColors shuffled).Recolors pairs)

/-- If the names stand for different kinds of tokens, no kind has two colors. -/
theorem nodup_kinds {pairs : List (TokenKind × Color)} (hnames : List.Forall₂ Names names pairs)
    (h : (names.map fun name => TokenKind.ofName? name.1).Nodup) :
  (pairs.map (·.1)).Nodup
  := by
  have hkinds : names.map (fun name => TokenKind.ofName? name.1) = (pairs.map (·.1)).map some := by
    rw [List.map_map, ← List.forall₂_eq_eq_eq, List.forall₂_map_left_iff,
      List.forall₂_map_right_iff]
    apply hnames.imp fun name pair h => h.1
  rw [hkinds] at h
  apply h.of_map

/-- Settings that have been read can be used. -/
theorem usable_of_parse (h : parse text = .ok c) :
  Usable c
  := by
  rcases parse_cases text with
    ⟨table, pairs, hread, htakes, hnames, hcolors, hparse⟩ | ⟨e, -, hparse⟩
  · rw [hparse] at h
    cases h
    have ht := (Toml.yields_read text).elim hread
    refine ⟨nodup_colors_settings ht htakes, pairs, hcolors, hnames, ?_⟩
    intro hkinds shuffled hperm
    apply Theme.recolors_ofColors (nodup_kinds hnames hkinds) hperm
  · rw [hparse] at h
    cases h

/-- The settings that are read from a text are those that it says, and there are none only if it
says none.  They can be used as they are.  What is reported names what is wrong with the text, and
it is an unknown name only if there is nothing else wrong but a date in place of the colors. -/
theorem parse_usable (text : String) :
  (∀ c, parse text = .ok c ↔ Says text c) ∧
  (∀ e, parse text = .error e → Fails text e ∧
    (e.IsUnknownName ↔
      ∃ table, Toml.read text = .ok table ∧ ∀ entry ∈ table, Takes entry.1 entry.2)) ∧
  ∀ c, parse text = .ok c → Usable c
  := by
  refine ⟨fun c => parse_eq_ok_iff, ?_, fun c => usable_of_parse⟩
  intro e herror
  rcases parse_cases text with ⟨table, pairs, -, -, -, -, hparse⟩ | ⟨e', hfails, hparse⟩
  · rw [hparse] at herror
    cases herror
  · rw [hparse] at herror
    cases herror
    exact ⟨hfails, hfails.isUnknownName_iff⟩

example :
  (parse "poll-interval-ms = 5\ncolors.Keyword = 'Red'").toOption
    = some { pollInterval := 10, colors := [("Keyword", "Red")] }
  := by decide +kernel

theorem not_allows_date (key written : String) :
  ¬Allows key (.date written)
  := by
  intro h
  generalize hv : Toml.Value.date written = v at h
  cases h with
  | colors names =>
    rw [tableOf] at hv
    cases hv
  | _ => cases hv

/-- The only entry of a document, if it is a date. -/
def onlyDate? : Except TomlError Toml.Table → Option (String × String)
  | .ok [(key, .date written)] => some (key, written)
  | _ => none

/-- A document with a date as its only entry has no other entry. -/
theorem eq_of_onlyDate? {result : Except TomlError Toml.Table} {key written : String}
    (h : onlyDate? result = some (key, written)) :
  result = .ok [(key, .date written)]
  := by
  unfold onlyDate? at h
  split at h
  · cases h
    rfl
  · cases h

/-- A time in place of the colors is reported as a name that is no kind of token. -/
theorem parse_colors_time :
  Toml.read "colors = 07:32:00" = .ok [("colors", .date "07:32:00")] ∧
    ¬Allows "colors" (.date "07:32:00") ∧
    parse "colors = 07:32:00" = .error (.unknownKind "$__toml_private_datetime") ∧
    (ConfigError.unknownKind "$__toml_private_datetime").IsUnknownName
  := by
  have hread : Toml.read "colors = 07:32:00" = .ok [("colors", .date "07:32:00")] :=
    eq_of_onlyDate? (by decide +kernel)
  refine ⟨hread, not_allows_date _ _, ?_, trivial⟩
  rw [parse_eq_of_read hread]
  rfl

end Config

end Highlight
