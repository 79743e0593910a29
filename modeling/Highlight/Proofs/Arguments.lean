import Mathlib.Data.List.Induction
import Highlight.CommandLine.Options

/-!
# Arguments as items

The arguments of the program are items, of which each one is read by itself: an option with a value
goes together with the argument behind it, whatever that is.  The first item that is for another
answer than a file, or that is at fault, decides the result.  Without such an item the options hold
what the items choose, in whatever order different ones stand.
-/

namespace Highlight

namespace Argument

variable {a : Argument} {arg : String}

/-- The texts of an argument that is known by name. -/
def names : Argument → List String
  | help => ["-h", "--help"]
  | version => ["-V", "--version"]
  | tokens => ["-t", "--tokens"]
  | noColor => ["--no-color"]
  | verbose => ["-v", "--verbose"]
  | grammar => ["-g", "--grammar"]
  | config => ["-c", "--config"]
  | unknown | file => []

/-- The argument behind is the value of this one. -/
def takesValue : Argument → Bool
  | grammar | config => true
  | _ => false

/-- One of the names of an argument is taken for this argument. -/
theorem ofText_of_mem_names (h : arg ∈ a.names) :
  ofText arg = a
  := by
  cases a <;> simp only [names, List.mem_cons, List.not_mem_nil, or_false] at h
  case noColor =>
    rw [h]
    rfl
  all_goals obtain rfl | rfl := h <;> rfl

/-- A text that is no name is taken for a file, unless it starts with a dash. -/
theorem ofText_cases (arg : String) :
  arg ∈ (ofText arg).names ∨
    ofText arg = if arg.toList.head? = some '-' then unknown else file
  := by
  unfold ofText
  split
  case h_14 => exact .inr rfl
  all_goals
    left
    decide

theorem ofText_of_forall_not_mem (h : ∀ a : Argument, arg ∉ a.names) :
  ofText arg = if arg.toList.head? = some '-' then unknown else file
  := (ofText_cases arg).resolve_left (h _)

end Argument

namespace Options

/-- An argument with the value that it takes. -/
structure Item where
  arg : String
  value : Option String := none
deriving DecidableEq, Repr

namespace Item

/-- What the item stands for. -/
def argument (i : Item) : Argument :=
  .ofText i.arg

/-- The arguments of the item. -/
def texts (i : Item) : List String :=
  i.arg :: i.value.toList

/-- The items of arguments, read from the left. -/
def ofArguments : List String → List Item
  | [] => []
  | arg :: args =>
    if (Argument.ofText arg).takesValue then
      match args with
      | [] => [⟨arg, none⟩]
      | value :: args => ⟨arg, some value⟩ :: ofArguments args
    else ⟨arg, none⟩ :: ofArguments args

/-- The result that an item decides behind the items `front`. -/
def verdict? (front : List Item) (i : Item) : Option (Except OptionsError Request) :=
  match i.argument, i.value with
  | .help, _ => some (.ok .help)
  | .version, _ => some (.ok .version)
  | .unknown, _ => some (.error (.unknownOption i.arg))
  | .grammar, none | .config, none => some (.error (.missingValue i.arg))
  | .file, _ => if front.any (·.argument = .file) then some (.error .secondFile) else none
  | _, _ => none

/-- The text that the item is there for. -/
def content? (i : Item) : Option String :=
  if i.argument = .file then some i.arg else i.value

end Item

/-- None of the items decides the result. -/
def Undecided (is : List Item) : Prop :=
  ∀ front i back, is = front ++ i :: back → i.verdict? front = none

/-- The texts for which an argument is there. -/
def contents (a : Argument) (is : List Item) : List String :=
  is.filterMap fun i => if i.argument = a then i.content? else none

/-- What items choose together. -/
def choices (is : List Item) : Options where
  file := (contents .file is).getLast?
  config := (contents .config is).getLast?
  grammar := (contents .grammar is).getLast?
  tokens := is.any (·.argument = .tokens)
  noColor := is.any (·.argument = .noColor)
  verbose := is.any (·.argument = .verbose)

/-- Reads items behind the items `front`. -/
def readItems (front : List Item) : List Item → Except OptionsError Request
  | [] => .ok (.highlight (choices front))
  | i :: is => (i.verdict? front).getD (readItems (front ++ [i]) is)

variable {a : Argument} {args : List String} {i j : Item} {is js front back : List Item}
  {result : Except OptionsError Request}

/-! ### Choices -/

/-- What is given for an argument by two lists of items is given in order. -/
theorem contents_append (a : Argument) (is js : List Item) :
  contents a (is ++ js) = contents a is ++ contents a js
  := List.filterMap_append

theorem contents_singleton (a : Argument) (i : Item) :
  contents a [i] = if i.argument = a then i.content?.toList else []
  := by
  rw [contents, List.filterMap_cons]
  split <;> simp_all

/-- There is a file among the items as soon as they choose one. -/
theorem isSome_file_choices (front : List Item) :
  (choices front).file.isSome = front.any (·.argument = .file)
  := by
  simp only [choices]
  induction front using List.reverseRecOn with
  | nil => rfl
  | append_singleton front i ih =>
    rw [contents_append, contents_singleton]
    by_cases h : i.argument = .file <;> simp [ih, h, Item.content?]

/-! ### Reading -/

/-- A file decides only if another one has been given before. -/
theorem verdict?_file (h : i.argument = .file) (front : List Item) :
  i.verdict? front = if (choices front).file.isSome then some (.error .secondFile) else none
  := by rw [Item.verdict?, h, isSome_file_choices]

/-- One item is read: it decides the result, or it adds its choice to those before it. -/
theorem read_texts (h : i.value.isSome = i.argument.takesValue) (front : List Item)
    (args : List String) :
  read (choices front) (i.texts ++ args) =
    (i.verdict? front).getD (read (choices (front ++ [i])) args)
  := by
  obtain ⟨arg, value⟩ := i
  cases harg : Argument.ofText arg <;> cases value <;>
    simp only [Item.argument, harg, Argument.takesValue] at h <;> try cases h
  case file.none.refl =>
    rw [verdict?_file (i := ⟨arg, none⟩) harg]
    simp only [Item.texts, Option.toList_none, List.cons_append, List.nil_append, read, harg]
    cases hfile : (choices front).file with
    | some path => rfl
    | none =>
      simp [choices, contents_append, contents_singleton, Item.argument, harg, Item.content?]
  all_goals
    simp [read, Item.texts, Item.verdict?, Item.argument, harg, choices, contents_append,
      contents_singleton, Item.content?]

/-- The arguments behind the items `front` are read item by item. -/
theorem read_choices (front : List Item) (args : List String) :
  read (choices front) args = readItems front (Item.ofArguments args)
  := by
  fun_induction Item.ofArguments args generalizing front with
  | case1 => rfl
  | case2 arg h =>
    -- An option without a value is the last item.
    cases harg : Argument.ofText arg <;> rw [harg] at h <;> cases h <;>
      simp [read, readItems, Item.verdict?, Item.argument, harg]
  | case3 arg h value args ih =>
    rw [readItems, ← ih]
    apply read_texts (i := ⟨arg, some value⟩)
    rw [Item.argument, h]
    rfl
  | case4 arg args h ih =>
    rw [readItems, ← ih]
    apply read_texts (i := ⟨arg, none⟩)
    rw [Bool.not_eq_true] at h
    rw [Item.argument, h]
    rfl

/-! ### The first item that decides -/

/-- Items decide nothing exactly if the items in front of the last one do not, and neither does
it. -/
theorem undecided_concat :
  Undecided (is ++ [i]) ↔ Undecided is ∧ i.verdict? is = none
  := by
  constructor
  · intro h
    constructor
    · rintro front j back rfl
      apply h front j (back ++ [i])
      rw [List.append_assoc, List.cons_append]
    · apply h is i []
      rfl
  · rintro ⟨his, hi⟩ front j back heq
    cases back using List.reverseRecOn with
    | nil =>
      obtain ⟨rfl, hj⟩ := List.append_inj' heq rfl
      cases hj
      apply hi
    | append_singleton back k =>
      rw [← List.cons_append, ← List.append_assoc] at heq
      obtain ⟨rfl, -⟩ := List.append_inj' heq rfl
      apply his front j back rfl

/-- Items that decide nothing are read up to their end. -/
theorem readItems_append (h : Undecided front) (back : List Item) :
  readItems [] (front ++ back) = readItems front back
  := by
  induction front using List.reverseRecOn generalizing back with
  | nil => rfl
  | append_singleton front i ih =>
    obtain ⟨hfront, hi⟩ := undecided_concat.mp h
    rw [List.append_assoc, ih hfront, List.singleton_append, readItems, hi, Option.getD_none]

/-- Either no item decides, or there is a first one that does. -/
theorem undecided_or_decided (is : List Item) :
  Undecided is ∨ ∃ front i back result, is = front ++ i :: back ∧ Undecided front ∧
    i.verdict? front = some result
  := by
  induction is using List.reverseRecOn with
  | nil =>
    left
    intro front i back h
    cases front <;> cases h
  | append_singleton is i ih =>
    obtain his | ⟨front, j, back, result, rfl, hfront, hj⟩ := ih
    · cases hi : i.verdict? is with
      | none => exact .inl (undecided_concat.mpr ⟨his, hi⟩)
      | some result => exact .inr ⟨is, i, [], result, rfl, his, hi⟩
    · right
      refine ⟨front, j, back ++ [i], result, ?_, hfront, hj⟩
      rw [List.append_assoc, List.cons_append]

/-- Arguments are read item by item. -/
theorem ofArguments_eq_readItems (args : List String) :
  ofArguments args = readItems [] (Item.ofArguments args)
  := read_choices [] args

/-- The first item that decides gives the answer, whatever comes behind it. -/
theorem ofArguments_of_verdict (his : Item.ofArguments args = front ++ i :: back)
    (hfront : Undecided front) (hi : i.verdict? front = some result) :
  ofArguments args = result
  := by
  rw [ofArguments_eq_readItems, his, readItems_append hfront, readItems, hi, Option.getD_some]

/-- If no item decides, the answer is what has been chosen. -/
theorem ofArguments_of_undecided (h : Undecided (Item.ofArguments args)) :
  ofArguments args = .ok (.highlight (choices (Item.ofArguments args)))
  := by
  have hread := readItems_append h []
  rw [List.append_nil] at hread
  rw [ofArguments_eq_readItems, hread, readItems]

/-- An item that decides the result is for another answer than a file, or at fault. -/
theorem verdict?_ne_highlight (front : List Item) (i : Item) (o : Options) :
  i.verdict? front ≠ some (.ok (.highlight o))
  := by
  rw [Item.verdict?]
  split <;> try split
  all_goals nofun

/-- A file is shown exactly if no item decides otherwise. -/
theorem exists_highlight_iff (args : List String) :
  (∃ o, ofArguments args = .ok (.highlight o)) ↔ Undecided (Item.ofArguments args)
  := by
  constructor
  · rintro ⟨o, ho⟩
    obtain h | ⟨front, i, back, result, his, hfront, hi⟩ :=
      undecided_or_decided (Item.ofArguments args)
    · apply h
    · rw [ofArguments_of_verdict his hfront hi] at ho
      rw [ho] at hi
      cases verdict?_ne_highlight front i o hi
  · intro h
    exact ⟨_, ofArguments_of_undecided h⟩

/-! ### Items in another order -/

/-- Behind other items, only a file can be at fault that would not be so by itself. -/
theorem verdict?_eq_none_iff :
  i.verdict? front = none ↔
    i.verdict? [] = none ∧ (i.argument = .file → (contents .file front) = [])
  := by
  by_cases h : i.argument = .file
  · rw [verdict?_file h, verdict?_file h]
    simp [h, choices, contents]
  · have hfront : i.verdict? front = i.verdict? [] := by
      rw [Item.verdict?, Item.verdict?]
      split <;> simp_all
    rw [hfront]
    simp [h]

/-- The items decide nothing if none of them does so by itself and there are not two files. -/
theorem undecided_iff :
  Undecided is ↔ (∀ i ∈ is, i.verdict? [] = none) ∧ (contents .file is).length ≤ 1
  := by
  induction is using List.reverseRecOn with
  | nil =>
    apply iff_of_true
    · intro front i back h
      cases front <;> cases h
    · exact ⟨nofun, Nat.zero_le 1⟩
  | append_singleton is i ih =>
    rw [undecided_concat, ih, verdict?_eq_none_iff, contents_append, contents_singleton,
      List.forall_mem_append, List.forall_mem_singleton]
    by_cases h : i.argument = .file
    · have hlength : (contents .file is ++ i.content?.toList).length ≤ 1 ↔
          contents .file is = [] := by simp [Item.content?, h]
      have hnil : contents .file is = [] → (contents .file is).length ≤ 1 := by
        intro hfiles
        rw [hfiles]
        apply Nat.zero_le
      rw [if_pos h, hlength]
      tauto
    · rw [if_neg h, List.append_nil]
      tauto

/-- If no item decides in one order, none does in another. -/
theorem Undecided.perm (h : Undecided is) (hperm : is.Perm js) :
  Undecided js
  := by
  rw [undecided_iff] at h ⊢
  obtain ⟨hverdicts, hfiles⟩ := h
  constructor
  · intro i hi
    apply hverdicts i (hperm.mem_iff.mpr hi)
  · have hcontents : (contents .file is).Perm (contents .file js) := hperm.filterMap _
    rw [← hcontents.length_eq]
    apply hfiles

/-- What is given for an argument stays the same if two neighbours are exchanged that are not both
for it. -/
theorem contents_swap (h : ¬(i.argument = a ∧ j.argument = a)) (front back : List Item) :
  contents a (front ++ j :: i :: back) = contents a (front ++ i :: j :: back)
  := by
  have hcons (k : Item) (is : List Item) :
      contents a (k :: is) = contents a [k] ++ contents a is := contents_append a [k] is
  have hswap : contents a [j] ++ contents a [i] = contents a [i] ++ contents a [j] := by
    rw [contents_singleton, contents_singleton]
    by_cases hi : i.argument = a
    · rw [if_neg (fun hj => h ⟨hi, hj⟩), List.append_nil, List.nil_append]
    · rw [if_neg hi, List.append_nil, List.nil_append]
  rw [contents_append, hcons j, hcons i back, ← List.append_assoc (contents a [j]), hswap,
    List.append_assoc, ← hcons j, ← hcons i, ← contents_append]

/-- The choices stay the same if two neighbours are exchanged that do not choose the same thing. -/
theorem choices_swap
    (h : ∀ a ∈ [Argument.grammar, .config, .file], ¬(i.argument = a ∧ j.argument = a))
    (front back : List Item) :
  choices (front ++ j :: i :: back) = choices (front ++ i :: j :: back)
  := by
  have hany (p : Item → Bool) :
      (front ++ j :: i :: back).any p = (front ++ i :: j :: back).any p := by
    simp [Bool.or_left_comm]
  unfold choices
  rw [contents_swap (h .file (by simp)), contents_swap (h .config (by simp)),
    contents_swap (h .grammar (by simp)), hany, hany, hany]

/-! ### The arguments of items -/

/-- The items are made of all arguments in order. -/
theorem flatMap_texts_ofArguments (args : List String) :
  (Item.ofArguments args).flatMap Item.texts = args
  := by
  fun_induction Item.ofArguments args with
  | case1 => rfl
  | case2 => rfl
  | case3 arg h value args ih =>
    rw [List.flatMap_cons, ih]
    rfl
  | case4 arg args h ih =>
    rw [List.flatMap_cons, ih]
    rfl

/-- Only what takes a value is given one. -/
theorem takesValue_of_mem_ofArguments (h : i ∈ Item.ofArguments args) (hi : i.value.isSome) :
  i.argument.takesValue
  := by
  fun_induction Item.ofArguments args with
  | case1 => cases h
  | case2 arg htakes =>
    rw [List.mem_singleton] at h
    subst h
    apply htakes
  | case3 arg htakes value args ih =>
    obtain rfl | h := List.mem_cons.mp h
    · apply htakes
    · apply ih h
  | case4 arg args htakes ih =>
    obtain rfl | h := List.mem_cons.mp h
    · cases hi
    · apply ih h

/-- An item that decides nothing has the value that it takes. -/
theorem isSome_value_of_verdict? (h : i.verdict? front = none) (hi : i.argument.takesValue) :
  i.value.isSome
  := by
  by_contra hvalue
  rw [Option.not_isSome_iff_eq_none] at hvalue
  rw [Item.verdict?, hvalue] at h
  cases hargument : i.argument <;> rw [hargument] at h hi
  case grammar | config => cases h
  all_goals cases hi

/-- Items are the items of their arguments if exactly those have a value that take one. -/
theorem ofArguments_flatMap_texts (h : ∀ i ∈ is, i.value.isSome = i.argument.takesValue) :
  Item.ofArguments (is.flatMap Item.texts) = is
  := by
  induction is with
  | nil => rfl
  | cons i is ih =>
    obtain ⟨hi, his⟩ := List.forall_mem_cons.mp h
    obtain ⟨arg, value⟩ := i
    cases value with
    | none =>
      have htakes : (Argument.ofText arg).takesValue = false := hi.symm
      rw [List.flatMap_cons, Item.texts, Option.toList_none, List.singleton_append,
        Item.ofArguments.eq_def]
      simp [htakes, ih his]
    | some value =>
      have htakes : (Argument.ofText arg).takesValue = true := hi.symm
      rw [List.flatMap_cons, Item.texts, Option.toList_some, List.cons_append,
        List.singleton_append, Item.ofArguments.eq_def]
      simp [htakes, ih his]

/-- Two items next to each other can change places unless both are for the same value. -/
theorem ofArguments_swap (his : Item.ofArguments args = front ++ i :: j :: back)
    (hargs : Undecided (Item.ofArguments args))
    (h : ∀ a ∈ [Argument.grammar, .config], ¬(i.argument = a ∧ j.argument = a)) :
  ofArguments ((front ++ j :: i :: back).flatMap Item.texts) = ofArguments args
  := by
  have hperm : (Item.ofArguments args).Perm (front ++ j :: i :: back) := by
    rw [his]
    apply (List.Perm.swap j i back).append_left
  have hundecided : Undecided (front ++ j :: i :: back) := hargs.perm hperm
  have hitems : Item.ofArguments ((front ++ j :: i :: back).flatMap Item.texts) =
      front ++ j :: i :: back := by
    apply ofArguments_flatMap_texts
    intro k hk
    rw [Bool.eq_iff_iff]
    constructor
    · apply takesValue_of_mem_ofArguments (hperm.mem_iff.mpr hk)
    · apply isSome_value_of_verdict? ((undecided_iff.mp hundecided).1 k hk)
  -- Two files would be a fault.
  have hfiles : ¬(i.argument = .file ∧ j.argument = .file) := by
    rintro ⟨hi, hj⟩
    obtain ⟨-, hlength⟩ := undecided_iff.mp hargs
    rw [his, contents_append] at hlength
    simp [contents, hi, hj, Item.content?] at hlength
    omega
  rw [ofArguments_of_undecided (hitems.symm ▸ hundecided), hitems, ofArguments_of_undecided hargs,
    his]
  congr 2
  apply choices_swap
  simp_all

/-- The arguments are read from the left as items.  The first item that asks for help or for the
version, that is an unknown option, that lacks its value or that is a second file decides the
result.  If there is none, the result is what the items choose together.  Two items next to each
other can then change places, unless both are for the grammar or both for the settings. -/
theorem ofArguments_items (args : List String) :
  (∀ arg, (∀ a : Argument, arg ∈ a.names → .ofText arg = a) ∧
    ((∀ a : Argument, arg ∉ a.names) →
      .ofText arg = if arg.toList.head? = some '-' then Argument.unknown else .file)) ∧
  let is := Item.ofArguments args
  is.flatMap Item.texts = args ∧
  ((∃ front i back result, is = front ++ i :: back ∧ Undecided front ∧
      i.verdict? front = some result ∧ ofArguments args = result) ∨
    Undecided is ∧ (contents .file is).length ≤ 1 ∧
      ofArguments args = .ok (.highlight (choices is))) ∧
  ∀ front i j back o, is = front ++ i :: j :: back → ofArguments args = .ok (.highlight o) →
    (∀ a ∈ [Argument.grammar, .config], ¬(i.argument = a ∧ j.argument = a)) →
    ofArguments ((front ++ j :: i :: back).flatMap Item.texts) = .ok (.highlight o)
  := by
  constructor
  · intro arg
    exact ⟨fun a => Argument.ofText_of_mem_names, Argument.ofText_of_forall_not_mem⟩
  intro is
  refine ⟨flatMap_texts_ofArguments args, ?_, ?_⟩
  · obtain h | ⟨front, i, back, result, his, hfront, hi⟩ := undecided_or_decided is
    · exact .inr ⟨h, (undecided_iff.mp h).2, ofArguments_of_undecided h⟩
    · exact .inl ⟨front, i, back, result, his, hfront, hi, ofArguments_of_verdict his hfront hi⟩
  · intro front i j back o his ho h
    have hargs : Undecided is := (exists_highlight_iff args).mp ⟨o, ho⟩
    rw [ofArguments_swap his hargs h, ho]

/-- A value that looks like a question for help, and a file that changes places with it. -/
theorem ofArguments_items_help :
  let args := ["-t", "-g", "--help", "a.yml"]
  let o : Options := { file := some "a.yml", grammar := some "--help", tokens := true }
  Item.ofArguments args = [⟨"-t", none⟩] ++ ⟨"-g", some "--help"⟩ :: ⟨"a.yml", none⟩ :: [] ∧
    ofArguments args = .ok (.highlight o) ∧
    ofArguments ["-t", "a.yml", "-g", "--help"] = .ok (.highlight o)
  := by
  intro args o
  have his : Item.ofArguments args =
      [⟨"-t", none⟩] ++ ⟨"-g", some "--help"⟩ :: ⟨"a.yml", none⟩ :: [] := by decide
  have ho : ofArguments args = .ok (.highlight o) := by decide
  have hswap := (ofArguments_items args).2.2.2 _ _ _ _ o his ho (by decide)
  exact ⟨his, ho, hswap⟩

end Options

end Highlight
