import Highlight.Text.Hexadecimal
import Highlight.Toml.Error

/-!
# Blanks, strings and keys

The smallest parts of a TOML document.  A part is taken from the front of a text, and what
follows it is handed on.
-/

namespace Highlight.Toml

/-- A part of a document with the text behind it. -/
abbrev Taken (α : Type) := α × List Char

/-! ### Blanks and comments -/

def isBlank (c : Char) : Bool :=
  c == ' ' || c == '\t'

/-- The character may stand in a comment or in a string of one line. -/
def isText (c : Char) : Bool :=
  c == '\t' || (' ' ≤ c && c != '\x7f')

def skipBlanks (cs : List Char) : List Char :=
  cs.dropWhile isBlank

/-- The fault that something else had to come. -/
def unexpected {α : Type} : List Char → Except TomlError α
  | [] => .error .unexpectedEnd
  | c :: _ => .error (.unexpected c)

/-- The text without the given character at its front. -/
def expect (c : Char) : List Char → Except TomlError (List Char)
  | d :: cs => if d = c then .ok cs else .error (.unexpected d)
  | [] => .error .unexpectedEnd

/-- The text behind the end of a line, in front of which only blanks and a comment may stand. -/
def endLine (cs : List Char) : Except TomlError (List Char) :=
  let cs := skipBlanks cs
  let cs := if cs.head? = some '#' then cs.dropWhile isText else cs
  match cs with
  | [] => .ok []
  | '\n' :: cs => .ok cs
  | '\r' :: '\n' :: cs => .ok cs
  | c :: _ => .error (.unexpected c)

/-- The text behind blanks, comments and ends of lines. -/
def skipLines (inComment : Bool) : List Char → Except TomlError (List Char)
  | [] => .ok []
  | '\n' :: cs => skipLines false cs
  | '\r' :: '\n' :: cs => skipLines false cs
  | c :: cs =>
    if inComment then
      if isText c then skipLines true cs else .error (.unexpected c)
    else if isBlank c then skipLines false cs
    else if c = '#' then skipLines true cs
    else .ok (c :: cs)

/-! ### Strings -/

/-- The character written by one letter behind a backslash. -/
def escape? : Char → Option Char
  | 'b' => some '\x08'
  | 't' => some '\t'
  | 'n' => some '\n'
  | 'f' => some '\x0c'
  | 'r' => some '\r'
  | '"' => some '"'
  | '\\' => some '\\'
  | _ => none

/-- The character written by number behind a backslash. -/
def numbered (digits : List Char) : Except TomlError Char :=
  match Text.charOfHex? digits with
  | some c => .ok c
  | none => .error .unknownEscape

/-- The character written by one letter behind a backslash, or the fault that there is none. -/
def escaped (c : Char) : Except TomlError Char :=
  match escape? c with
  | some d => .ok d
  | none => .error .unknownEscape

/-- The rest of a string with escapes, behind the characters of `acc` in reverse. -/
def basic (acc : List Char) : List Char → Except TomlError (Taken String)
  | [] => .error .unexpectedEnd
  | '"' :: cs => .ok (String.ofList acc.reverse, cs)
  | '\\' :: 'u' :: a :: b :: c :: d :: cs => do
    basic ((← numbered [a, b, c, d]) :: acc) cs
  | '\\' :: 'U' :: a :: b :: c :: d :: e :: f :: g :: h :: cs => do
    basic ((← numbered [a, b, c, d, e, f, g, h]) :: acc) cs
  | '\\' :: c :: cs => do basic ((← escaped c) :: acc) cs
  | c :: cs => if isText c then basic (c :: acc) cs else .error (.unexpected c)

/-- The rest of a string that is taken as it is written. -/
def literal (cs : List Char) : Except TomlError (Taken String) :=
  let content := cs.takeWhile fun c => c != '\'' && isText c
  match cs.drop content.length with
  | '\'' :: rest => .ok (String.ofList content, rest)
  | rest => unexpected rest

/-- The end of a string of several lines behind three quotes: up to two more belong to it. -/
def closeLines (quote : Char) (acc cs : List Char) : String × List Char :=
  let more := (cs.takeWhile (· == quote)).take 2
  (String.ofList (acc.reverse ++ more), cs.drop more.length)

/-- A backslash in front of this text joins the lines around it. -/
def joinsLines (cs : List Char) : Bool :=
  match skipBlanks cs with
  | '\n' :: _ => true
  | '\r' :: '\n' :: _ => true
  | _ => false

/-- The rest of a string of several lines with escapes.  When `joining`, white space is left out. -/
def basicLines (joining : Bool) (acc : List Char) : List Char → Except TomlError (Taken String)
  | [] => .error .unexpectedEnd
  | '"' :: '"' :: '"' :: cs => .ok (closeLines '"' acc cs)
  | '\r' :: '\n' :: cs =>
    if joining then basicLines true acc cs else basicLines false ('\n' :: acc) cs
  | '\n' :: cs => if joining then basicLines true acc cs else basicLines false ('\n' :: acc) cs
  | '\\' :: 'u' :: a :: b :: c :: d :: cs => do
    basicLines false ((← numbered [a, b, c, d]) :: acc) cs
  | '\\' :: 'U' :: a :: b :: c :: d :: e :: f :: g :: h :: cs => do
    basicLines false ((← numbered [a, b, c, d, e, f, g, h]) :: acc) cs
  | '\\' :: c :: cs =>
    if joinsLines (c :: cs) then basicLines true acc (c :: cs)
    else do basicLines false ((← escaped c) :: acc) cs
  | c :: cs =>
    if joining && isBlank c then basicLines true acc cs
    else if isText c then basicLines false (c :: acc) cs
    else .error (.unexpected c)

/-- The rest of a string of several lines that is taken as it is written. -/
def literalLines (acc : List Char) : List Char → Except TomlError (Taken String)
  | [] => .error .unexpectedEnd
  | '\'' :: '\'' :: '\'' :: cs => .ok (closeLines '\'' acc cs)
  | '\r' :: '\n' :: cs => literalLines ('\n' :: acc) cs
  | '\n' :: cs => literalLines ('\n' :: acc) cs
  | c :: cs => if isText c then literalLines (c :: acc) cs else .error (.unexpected c)

/-- The text without the end of a line at its front. -/
def skipLineEnd : List Char → List Char
  | '\n' :: cs => cs
  | '\r' :: '\n' :: cs => cs
  | cs => cs

/-- The string at the front of a text, if it starts with a quote. -/
def string? : List Char → Option (Except TomlError (Taken String))
  | '"' :: '"' :: '"' :: cs => some (basicLines false [] (skipLineEnd cs))
  | '"' :: cs => some (basic [] cs)
  | '\'' :: '\'' :: '\'' :: cs => some (literalLines [] (skipLineEnd cs))
  | '\'' :: cs => some (literal cs)
  | _ => none

/-! ### Keys -/

/-- The character may stand in a key without quotes. -/
def isBare (c : Char) : Bool :=
  c.isAlphanum || c == '_' || c == '-'

/-- A key without dots. -/
def key : List Char → Except TomlError (Taken String)
  | '"' :: cs => basic [] cs
  | '\'' :: cs => literal cs
  | cs =>
    match cs.takeWhile isBare with
    | [] => unexpected cs
    | name => .ok (String.ofList name, cs.dropWhile isBare)

/-- Keys joined by dots, at most as many as `fuel` says, and the blanks around them. -/
def keys : (fuel : Nat) → List Char → Except TomlError (Taken (List String))
  | 0, cs => unexpected cs
  | fuel + 1, cs => do
    let (name, cs) ← key (skipBlanks cs)
    match skipBlanks cs with
    | '.' :: cs => do
      let (names, cs) ← keys fuel cs
      return (name :: names, cs)
    | cs => return ([name], cs)

/-- A key, which leads through the tables that it names in front of its dots. -/
def path (cs : List Char) : Except TomlError (Taken (List String)) :=
  keys (cs.length + 1) cs

end Highlight.Toml
