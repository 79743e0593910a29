import Highlight.Terminal.Styled

/-!
# What a terminal shows

A terminal reads an output character by character.  The sequences in it are not shown; they set the
style of the characters behind them, until another one sets it back.  Of what the numbers of a
sequence can mean, the foreground, bold, italic and underlined text are followed here.
-/

namespace Highlight.Terminal

/-! ### Reading an output -/

/-- What a terminal reads at a time. -/
inductive Piece where
  | char (c : Char)
  /-- The characters between the bracket and the letter of a sequence. -/
  | sequence (numbers : List Char)
deriving DecidableEq, Repr

/-- The pieces of an output, or of the rest of an output, of which the characters in `read`, in
reverse, are the start of a sequence.  What never gets its letter is no sequence. -/
def piecesFrom : (read : Option (List Char)) → List Char → List Piece
  | none, [] => []
  | none, '\x1b' :: '[' :: output => piecesFrom (some []) output
  | none, c :: output => .char c :: piecesFrom none output
  | some read, [] => ('\x1b' :: '[' :: read.reverse).map .char
  | some read, 'm' :: output => .sequence read.reverse :: piecesFrom none output
  | some read, c :: output => piecesFrom (some (c :: read)) output

def pieces (output : List Char) : List Piece :=
  piecesFrom none output

def Piece.char? : Piece → Option Char
  | char c => some c
  | sequence _ => none

/-- The output without its sequences. -/
def strip (output : List Char) : List Char :=
  (pieces output).filterMap Piece.char?

/-! ### Following the style -/

/-- The sixteen colors in the order of their numbers. -/
def palette : List Color :=
  [.black, .red, .green, .yellow, .blue, .magenta, .cyan, .white, .brightBlack, .brightRed,
   .brightGreen, .brightYellow, .brightBlue, .brightMagenta, .brightCyan, .brightWhite]

/-- The style in a color of the palette. -/
def inPalette (s : Style) (n : Nat) : Style :=
  s.withColor (palette[n]?.getD s.color)

/-- The style after a number that stands for itself. -/
def attributed (s : Style) : Nat → Style
  | 0 => .plain
  | 1 => s.withBold
  | 3 => s.withItalic
  | 4 => s.withUnderline
  | 22 => { s with bold := false }
  | 23 => { s with italic := false }
  | 24 => { s with underline := false }
  | 39 => s.withColor .default
  | n =>
    if 30 ≤ n ∧ n < 38 then inPalette s (n - 30)
    else if 90 ≤ n ∧ n < 98 then inPalette s (n - 90 + 8)
    else s

/-- The style after the numbers of a sequence, from left to right. -/
def restyle (s : Style) : List Nat → Style
  | [] => s
  | 38 :: 5 :: n :: numbers => restyle (inPalette s n) numbers
  | 48 :: 5 :: _ :: numbers => restyle s numbers
  | n :: numbers => restyle (attributed s n) numbers

/-- The numbers of a sequence.  One that is left out is zero. -/
def numbersOf (numbers : List Char) : List Nat :=
  (numbers.splitOn ';').map (Nat.ofDigitChars 10 · 0)

/-- The characters that are shown for pieces, each with its style. -/
def display (s : Style) : List Piece → List (Char × Style)
  | [] => []
  | .char c :: ps => (c, s) :: display s ps
  | .sequence numbers :: ps => display (restyle s (numbersOf numbers)) ps

/-- What a terminal shows that starts in the plain style. -/
def shown (output : List Char) : List (Char × Style) :=
  display .plain (pieces output)

variable {text : List Char} {numbers : String}

/-- Following the style does not change the characters. -/
theorem map_fst_display (s : Style) (ps : List Piece) :
  (display s ps).map Prod.fst = ps.filterMap Piece.char?
  := by
  induction ps generalizing s with
  | nil => rfl
  | cons p ps ih =>
    cases p with
    | char c => rw [display, List.map_cons, ih, List.filterMap_cons, Piece.char?]
    | sequence numbers => rw [display, ih, List.filterMap_cons, Piece.char?]

/-- The characters that are shown are those of the output without its sequences. -/
theorem map_fst_shown (output : List Char) :
  (shown output).map Prod.fst = strip output
  := map_fst_display _ _

/-- Text is shown in the style that is on. -/
theorem display_text (s : Style) (text : List Char) (ps : List Piece) :
  display s (text.map .char ++ ps) = text.map (·, s) ++ display s ps
  := by
  induction text with
  | nil => rfl
  | cons c text ih =>
    rw [List.map_cons, List.cons_append, display, ih, List.map_cons, List.cons_append]

/-! ### Pieces -/

theorem pieces_cons {c : Char} (hc : c ≠ '\x1b') (output : List Char) :
  pieces (c :: output) = .char c :: pieces output
  := by
  rw [pieces, piecesFrom]
  · rfl
  · rintro _ rfl
    exact absurd rfl hc

/-- Text without escapes is shown as it is. -/
theorem pieces_append (h : '\x1b' ∉ text) (output : List Char) :
  pieces (text ++ output) = text.map .char ++ pieces output
  := by
  induction text with
  | nil => rfl
  | cons c text ih =>
    obtain ⟨hc, htext⟩ := not_or.mp (mt List.mem_cons.mpr h)
    rw [List.cons_append, pieces_cons (Ne.symm hc), ih htext, List.map_cons, List.cons_append]

/-- The rest of a sequence is read up to its letter. -/
theorem piecesFrom_some (read : List Char) (h : 'm' ∉ text) (output : List Char) :
  piecesFrom (some read) (text ++ 'm' :: output) =
    .sequence (read.reverse ++ text) :: pieces output
  := by
  induction text generalizing read with
  | nil =>
    rw [List.append_nil]
    rfl
  | cons c text ih =>
    obtain ⟨hc, htext⟩ := not_or.mp (mt List.mem_cons.mpr h)
    rw [List.cons_append, piecesFrom, ih _ htext, List.reverse_cons, List.append_assoc]
    · rfl
    · exact fun hm => absurd hm.symm hc

/-- Text without escapes is shown plain at the start of an output. -/
theorem shown_append (h : '\x1b' ∉ text) (output : List Char) :
  shown (text ++ output) = text.map (·, .plain) ++ shown output
  := by rw [shown, pieces_append h, display_text, shown]

/-! ### Styled text -/

/-- The style after a sequence. -/
def after (s : Style) (numbers : String) : Style :=
  restyle s (numbersOf numbers.toList)

/-- Sequences are followed one after another and show nothing. -/
theorem display_sequences {sequences : List String} (h : ∀ n ∈ sequences, 'm' ∉ n.toList)
    (s : Style) (output : List Char) :
  display s (pieces (sequences.flatMap sequence ++ output)) =
    display (sequences.foldl after s) (pieces output)
  := by
  induction sequences generalizing s with
  | nil => rfl
  | cons n ns ih =>
    obtain ⟨hn, hns⟩ := List.forall_mem_cons.mp h
    have hpieces : pieces (sequence n ++ (ns.flatMap sequence ++ output)) =
        .sequence n.toList :: pieces (ns.flatMap sequence ++ output) := by
      rw [sequence, List.append_assoc]
      apply piecesFrom_some [] hn
    rw [List.flatMap_cons, List.append_assoc, hpieces, display, ih hns]
    rfl

/-- The numbers by which a color is set. -/
def colorNumbers (c : Color) : List String :=
  match colorNumber? c with
  | some n => ["38;5;" ++ n]
  | none => []

/-- An attribute has its number if it is set. -/
def attributeNumbers (n : String) (set : Bool) : List String :=
  if set then [n] else []

/-- The numbers of a style are those of its color and of what it sets. -/
theorem styleNumbers_eq (color : Color) (bold italic underline : Bool) :
  styleNumbers ⟨color, bold, italic, underline⟩ =
    colorNumbers color ++ attributeNumbers "1" bold ++ attributeNumbers "3" italic ++
      attributeNumbers "4" underline
  := rfl

/-- No number has the letter that ends a sequence. -/
theorem not_mem_styleNumbers (s : Style) :
  ∀ n ∈ styleNumbers s, 'm' ∉ n.toList
  := by
  obtain ⟨color, bold, italic, underline⟩ := s
  simp only [styleNumbers_eq, List.forall_mem_append]
  refine ⟨⟨⟨?_, ?_⟩, ?_⟩, ?_⟩
  · cases color <;> decide
  · cases bold <;> decide
  · cases italic <;> decide
  · cases underline <;> decide

/-- From the plain style, the sequences of a style set exactly this style. -/
theorem after_styleNumbers (s : Style) :
  (styleNumbers s).foldl after .plain = s
  := by
  obtain ⟨color, bold, italic, underline⟩ := s
  have hcolor : (colorNumbers color).foldl after .plain = .ofColor color := by
    cases color <;> decide
  rw [styleNumbers_eq, List.foldl_append, List.foldl_append, List.foldl_append, hcolor]
  cases bold <;> cases italic <;> cases underline <;> rfl

/-- Styled text is shown in its style, and the style ends with it. -/
theorem shown_styled (h : '\x1b' ∉ text) (s : Style) (output : List Char) :
  shown (styled s text ++ output) = text.map (·, s) ++ shown output
  := by
  rw [styled]
  split
  next hs =>
    obtain rfl : s = .plain := beq_iff_eq.mp hs
    apply shown_append h
  next =>
    have hreset : reset = ["0", "0"].flatMap sequence := rfl
    have hzero : ∀ n ∈ ["0", "0"], 'm' ∉ n.toList := by decide
    rw [List.append_assoc, List.append_assoc, shown, display_sequences (not_mem_styleNumbers s),
      after_styleNumbers, pieces_append h, display_text, hreset, display_sequences hzero]
    rfl

end Highlight.Terminal
