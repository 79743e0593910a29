import Highlight.Pattern.Item
import Highlight.Pattern.Property
import Highlight.Text.Hexadecimal

/-!
# Escapes in written patterns

What a backslash starts: sets, assertions, characters without a picture, characters written by
number, and punctuation that stands for itself.
-/

namespace Highlight.Pattern.Atom

/-- The punctuation that stands for itself when escaped. -/
def isEscapable (c : Char) : Bool :=
  c.toNat < 128 && !c.isAlphanum && c != '<' && c != '>'

/-! ### Characters written by number -/

/-- The character with the number written in hexadecimal digits. -/
def ofHex (digits : List Char) : Except PatternError Char :=
  match Text.charOfHex? digits with
  | some c => .ok c
  | none => .error .malformedNumber

/-- The first `n` characters that are not ignored, and the text behind them. -/
def takeDigits (f : Flags) : (n : Nat) → List Char → Option (List Char × List Char)
  | 0, cs => some ([], cs)
  | n + 1, cs =>
    match f.skip cs with
    | [] => none
    | c :: cs => (takeDigits f n cs).map fun (digits, rest) => (c :: digits, rest)

/-- The character written by number behind an escape with `width` digits or in braces.  Two digits
stand for a byte where the pattern is not in Unicode, and not every byte is a character. -/
def numbered (f : Flags) (width : Nat) (cs : List Char) :
    Except PatternError (Atom × List Char) :=
  match f.skip cs with
  | '{' :: cs =>
    match f.braced? cs with
    | some (digits, rest) => do return (literal (← ofHex digits), rest)
    | none => .error .malformedNumber
  | cs =>
    match takeDigits f width cs with
    | some (digits, rest) => do
      let c ← ofHex digits
      if width = 2 && !f.unicode && 127 < c.toNat then .error .invalidEncoding
      else return (literal c, rest)
    | none => .error .malformedNumber

/-! ### Sets -/

/-- The ASCII digits, by the first and last characters of their ranges. -/
def asciiDigits : List (Char × Char) :=
  [('0', '9')]

def asciiSpaces : List (Char × Char) :=
  [('\t', '\r'), (' ', ' ')]

def asciiWord : List (Char × Char) :=
  [('0', '9'), ('A', 'Z'), ('_', '_'), ('a', 'z')]

/-- The named sets of ASCII characters. -/
def asciiPairs? : String → Option (List (Char × Char))
  | "alnum" => some [('0', '9'), ('A', 'Z'), ('a', 'z')]
  | "alpha" => some [('A', 'Z'), ('a', 'z')]
  | "ascii" => some [('\x00', '\x7f')]
  | "blank" => some [('\t', '\t'), (' ', ' ')]
  | "cntrl" => some [('\x00', '\x1f'), ('\x7f', '\x7f')]
  | "digit" => some asciiDigits
  | "graph" => some [('!', '~')]
  | "lower" => some [('a', 'z')]
  | "print" => some [(' ', '~')]
  | "punct" => some [('!', '/'), (':', '@'), ('[', '`'), ('{', '~')]
  | "space" => some asciiSpaces
  | "upper" => some [('A', 'Z')]
  | "word" => some asciiWord
  | "xdigit" => some [('0', '9'), ('A', 'F'), ('a', 'f')]
  | _ => none

/-- The union of ranges whose first and last characters are given, without regard to case if it is
ignored. -/
def ofPairs (f : Flags) : List (Char × Char) → CharSet
  | [] => .nothing
  | [(first, last)] => f.range first last
  | (first, last) :: pairs => .union (f.range first last) (ofPairs f pairs)

/-- The named set of ASCII characters. -/
def asciiSet? (f : Flags) (name : String) : Option CharSet :=
  (asciiPairs? name).map (ofPairs f)

/-- The set that an escaped letter stands for.  A capital stands for the complement. -/
def letterSet (f : Flags) (unicode : CharSet) (ascii : List (Char × Char)) (negated : Bool) :
    Except PatternError Atom := do
  return set (← f.complement negated (if f.unicode then unicode else ofPairs f ascii))

/-- The set of the characters with the property named behind an escaped letter, by a single
character or between braces. -/
def property (f : Flags) (negated : Bool) (cs : List Char) :
    Except PatternError (Atom × List Char) := do
  let (ranges?, rest) ← match f.skip cs with
    | [] | '\\' :: _ => .error .malformedProperty
    | '{' :: cs =>
      match f.braced? cs with
      | some (text, rest) => .ok (Property.ofText? text, rest)
      | none => .error .malformedProperty
    | c :: rest => .ok (Property.ofName? [c], rest)
  match ranges? with
  | none => .error .unknownProperty
  | some ranges =>
    if f.unicode then return (set (← f.complement negated (f.ranges ranges)), rest)
    else .error .needsUnicode

/-! ### Places -/

/-- The side of a word with a name. -/
def wordSide? (f : Flags) : String → Option Assertion
  | "start" => some (f.word .wordStart .asciiWordStart)
  | "end" => some (f.word .wordEnd .asciiWordEnd)
  | "start-half" => some (f.word .noWordBefore .noAsciiWordBefore)
  | "end-half" => some (f.word .noWordBehind .noAsciiWordBehind)
  | _ => none

/-- The characters of the names of sides. -/
def isSideLetter (c : Char) : Bool :=
  c.isAlpha || c == '-'

/-- What an escaped letter for the boundary of a word starts.  It may name a side in braces, but
braces with a number belong to a repetition. -/
def boundary (f : Flags) (cs : List Char) : Except PatternError (Atom × List Char) :=
  let whole := assertion (f.word .wordBoundary .asciiWordBoundary)
  match cs with
  | '{' :: inside =>
    match f.skip inside with
    | [] => .error .malformedBoundary
    | c :: _ =>
      if isSideLetter c then
        match f.braced? inside with
        | some (name, rest) =>
          match wordSide? f (String.ofList name) with
          | some a => .ok (assertion a, rest)
          | none => .error .malformedBoundary
        | none => .error .malformedBoundary
      else .ok (whole, cs)
  | cs => .ok (whole, cs)

/-! ### All escapes -/

/-- What a backslash and a character stand for by themselves. -/
def ofEscaped (f : Flags) : Char → Except PatternError Atom
  | 'd' => letterSet f .digit asciiDigits false
  | 'D' => letterSet f .digit asciiDigits true
  | 's' => letterSet f .space asciiSpaces false
  | 'S' => letterSet f .space asciiSpaces true
  | 'w' => letterSet f .word asciiWord false
  | 'W' => letterSet f .word asciiWord true
  | 'B' => .ok (assertion (f.word .noWordBoundary .noAsciiWordBoundary))
  | 'A' => .ok (assertion .textStart)
  | 'z' => .ok (assertion .textEnd)
  | '<' => .ok (assertion (f.word .wordStart .asciiWordStart))
  | '>' => .ok (assertion (f.word .wordEnd .asciiWordEnd))
  | 'n' => .ok (literal '\n')
  | 't' => .ok (literal '\t')
  | 'r' => .ok (literal '\r')
  | 'f' => .ok (literal '\x0c')
  | 'v' => .ok (literal '\x0b')
  | 'a' => .ok (literal '\x07')
  | c => if isEscapable c then .ok (literal c) else .error (.unknownEscape c)

/-- What is written by the characters behind a backslash. -/
def escaped (f : Flags) : List Char → Except PatternError (Atom × List Char)
  | [] => .error .danglingEscape
  | 'b' :: rest => boundary f rest
  | 'x' :: rest => numbered f 2 rest
  | 'u' :: rest => numbered f 4 rest
  | 'U' :: rest => numbered f 8 rest
  | 'p' :: rest => property f false rest
  | 'P' :: rest => property f true rest
  | c :: rest => do return (← ofEscaped f c, rest)

end Highlight.Pattern.Atom
