import Highlight.Pattern.Error
import Highlight.Pattern.Form

/-!
# Flags of written patterns

The flags in force at an item of a written pattern say which characters and which places the item
stands for.
-/

namespace Highlight.Pattern

/-- A switch for the meaning of the items that follow. -/
inductive Flag where
  | ignoreCase
  /-- The line anchors hold at every line of the text. -/
  | multiLine
  /-- The dot stands for the ends of lines as well. -/
  | dotAll
  /-- Repetitions are greedy when they would not be, and the other way around. -/
  | swapGreed
  /-- Blanks stand for nothing, and a hash character starts a comment. -/
  | ignoreSpacing
  /-- Named sets, the boundaries of words and case are those of all characters and not only those
  of ASCII. -/
  | unicode
  /-- A carriage return ends a line as well, alone or together with the newline behind it. -/
  | crlf
deriving DecidableEq, Repr

/-- The flag written as a letter. -/
def Flag.ofLetter? : Char → Option Flag
  | 'i' => some ignoreCase
  | 'm' => some multiLine
  | 's' => some dotAll
  | 'U' => some swapGreed
  | 'x' => some ignoreSpacing
  | 'u' => some unicode
  | 'R' => some crlf
  | _ => none

/-- Flags to be set or cleared, in order. -/
abbrev FlagChanges := List (Flag × Bool)

/-- The flags in force at an item. -/
structure Flags where
  ignoreCase : Bool := false
  multiLine : Bool := false
  dotAll : Bool := false
  swapGreed : Bool := false
  ignoreSpacing : Bool := false
  unicode : Bool := true
  crlf : Bool := false

namespace Flags

def set (f : Flags) : Flag × Bool → Flags
  | (.ignoreCase, b) => { f with ignoreCase := b }
  | (.multiLine, b) => { f with multiLine := b }
  | (.dotAll, b) => { f with dotAll := b }
  | (.swapGreed, b) => { f with swapGreed := b }
  | (.ignoreSpacing, b) => { f with ignoreSpacing := b }
  | (.unicode, b) => { f with unicode := b }
  | (.crlf, b) => { f with crlf := b }

def change (f : Flags) (changes : FlagChanges) : Flags :=
  changes.foldl set f

/-! ### Sets -/

/-- The ASCII letters whose other case lies between two characters. -/
def asciiVariants (first last : Char) : List Char :=
  ("abcdefghijklmnopqrstuvwxyzABCDEFGHIJKLMNOPQRSTUVWXYZ".toList).filter fun c =>
    let d := if c.isUpper then c.toLower else c.toUpper
    first ≤ d && d ≤ last

/-- The characters from `first` to `last`, and those that differ from them in case if case is
ignored. -/
def range (f : Flags) (first last : Char) : CharSet :=
  if !f.ignoreCase then .range first last
  else if f.unicode then .anyCase first last
  else
    (asciiVariants first last).foldl (fun s c => .union s (.single c)) (.range first last)

/-- The characters whose code points lie in ascending ranges, with their variants as for
`Flags.range`. -/
def ranges (f : Flags) (rs : List (Nat × Nat)) : CharSet :=
  .ofRanges (if f.ignoreCase then Unicode.ignoringCase rs else rs)

/-- The complement of a set if `negated` holds.  The complement of a set of ASCII characters would
hold bytes that are no characters. -/
def complement (f : Flags) (negated : Bool) (s : CharSet) : Except PatternError CharSet :=
  if !negated then .ok s
  else if f.unicode then .ok (.compl s)
  else .error .invalidEncoding

/-- The characters that a dot stands for. -/
def dot (f : Flags) : Except PatternError CharSet :=
  if !f.unicode then .error .invalidEncoding
  else if f.dotAll then .ok .all
  else if f.crlf then .ok .withinReturns
  else .ok .withinLine

/-! ### Places -/

/-- The place that a caret stands for. -/
def caret (f : Flags) : Assertion :=
  if !f.multiLine then .textStart else if f.crlf then .crlfLineStart else .lineStart

/-- The place that a dollar sign stands for. -/
def dollar (f : Flags) : Assertion :=
  if !f.multiLine then .textEnd else if f.crlf then .crlfLineEnd else .lineEnd

/-- The assertion about words in Unicode or in ASCII. -/
def word (f : Flags) (unicode ascii : Assertion) : Assertion :=
  if f.unicode then unicode else ascii

/-! ### Spacing -/

/-- The text behind blanks and comments. -/
def skipSpacing (inComment : Bool) : List Char → List Char
  | [] => []
  | c :: cs =>
    if inComment then skipSpacing (c != '\n') cs
    else if Unicode.isSpace c then skipSpacing false cs
    else if c = '#' then skipSpacing true cs
    else c :: cs

/-- The text behind what is ignored at its start. -/
def skip (f : Flags) (cs : List Char) : List Char :=
  if f.ignoreSpacing then skipSpacing false cs else cs

/-- The characters in front of a closing brace, without blanks and comments if `spaced` holds, and
the text behind the brace. -/
def upToBrace (spaced inComment : Bool) : List Char → Option (List Char × List Char)
  | [] => none
  | c :: cs =>
    if inComment then upToBrace spaced (c != '\n') cs
    else if spaced && Unicode.isSpace c then upToBrace spaced false cs
    else if spaced && c == '#' then upToBrace spaced true cs
    else if c = '}' then some ([], cs)
    else (upToBrace spaced false cs).map fun (front, back) => (c :: front, back)

/-- The characters in front of a closing brace that are not ignored, and the text behind it. -/
def braced? (f : Flags) (cs : List Char) : Option (List Char × List Char) :=
  upToBrace f.ignoreSpacing false cs

end Flags

end Highlight.Pattern
