import Highlight.Toml.Text
import Highlight.Toml.Value

/-!
# Numbers, truth values and dates

The values that are written as a single word.  A date and a time may be two words with one space
between them.
-/

namespace Highlight.Toml

/-! ### Numbers -/

/-- The value of a digit of a base. -/
def digit? (base : Nat) (c : Char) : Option Nat :=
  (Text.hexDigit? c).filter (· < base)

/-- The digits of a number.  Single underscores may stand between them. -/
def digits? (base : Nat) (word : List Char) : Option (List Nat) :=
  let groups := word.splitOnP (· == '_')
  if groups.any (·.isEmpty) then none else groups.flatten.mapM (digit? base)

/-- The digits of a decimal number, which starts with a zero only if it is zero. -/
def decimal? (word : List Char) : Option (List Nat) :=
  match digits? 10 word with
  | some (0 :: _ :: _) => none
  | ds => ds

/-- The word without a sign. -/
def unsigned : List Char → List Char
  | '+' :: word => word
  | '-' :: word => word
  | word => word

/-- The integer that a word stands for. -/
def integer? (word : List Char) : Option Int :=
  let number (base : Nat) (ds : Option (List Nat)) : Option Int :=
    ds.map fun ds => (Text.ofDigits base ds : Int)
  match word with
  | '0' :: 'x' :: word => number 16 (digits? 16 word)
  | '0' :: 'o' :: word => number 8 (digits? 8 word)
  | '0' :: 'b' :: word => number 2 (digits? 2 word)
  | '-' :: word => (number 10 (decimal? word)).map (- ·)
  | word => number 10 (decimal? (unsigned word))

/-- The integer fits into 64 bits. -/
def inRange (n : Int) : Bool :=
  Int64.minValue.toInt ≤ n && n ≤ Int64.maxValue.toInt

def isDigitOrUnderscore (c : Char) : Bool :=
  c.isDigit || c == '_'

/-- The word is the exponent of a float. -/
def isExponent : List Char → Bool
  | 'e' :: word => (digits? 10 (unsigned word)).isSome
  | 'E' :: word => (digits? 10 (unsigned word)).isSome
  | _ => false

/-- The word is what follows the whole part of a float: places behind a point, an exponent,
or both. -/
def isFraction : List Char → Bool
  | '.' :: word =>
    let exponent := word.dropWhile isDigitOrUnderscore
    (digits? 10 (word.takeWhile isDigitOrUnderscore)).isSome &&
      (exponent.isEmpty || isExponent exponent)
  | word => isExponent word

def isFloat (word : List Char) : Bool :=
  let word := unsigned word
  word == "inf".toList || word == "nan".toList ||
    ((decimal? (word.takeWhile isDigitOrUnderscore)).isSome &&
      isFraction (word.dropWhile isDigitOrUnderscore))

/-! ### Dates -/

/-- The number of two digits, if it lies in a range. -/
def twoDigits (first last : Nat) (a b : Char) : Option Nat :=
  match digit? 10 a, digit? 10 b with
  | some a, some b =>
    let n := 10 * a + b
    if first ≤ n ∧ n ≤ last then some n else none
  | _, _ => none

def isLeapYear (year : Nat) : Bool :=
  year % 4 == 0 && (year % 100 != 0 || year % 400 == 0)

def daysOfMonth (year month : Nat) : Nat :=
  if month = 2 then (if isLeapYear year then 29 else 28)
  else if month ∈ [4, 6, 9, 11] then 30
  else 31

/-- What follows the day at the front of a word. -/
def afterDay? : List Char → Option (List Char)
  | y₁ :: y₂ :: y₃ :: y₄ :: '-' :: m₁ :: m₂ :: '-' :: d₁ :: d₂ :: word => do
    let year := 100 * (← twoDigits 0 99 y₁ y₂) + (← twoDigits 0 99 y₃ y₄)
    let month ← twoDigits 1 12 m₁ m₂
    let _ ← twoDigits 1 (daysOfMonth year month) d₁ d₂
    return word
  | _ => none

/-- What follows the time at the front of a word.  A minute may have a leap second. -/
def afterTime? : List Char → Option (List Char)
  | h₁ :: h₂ :: ':' :: m₁ :: m₂ :: ':' :: s₁ :: s₂ :: word => do
    let _ ← twoDigits 0 23 h₁ h₂
    let _ ← twoDigits 0 59 m₁ m₂
    let _ ← twoDigits 0 60 s₁ s₂
    match word with
    | '.' :: places =>
      if places.head?.any Char.isDigit then some (places.dropWhile Char.isDigit) else none
    | word => some word
  | _ => none

/-- The word is the offset of a time from that of Greenwich, or empty. -/
def isOffset : List Char → Bool
  | [] => true
  | [z] => z == 'Z' || z == 'z'
  | [sign, h₁, h₂, ':', m₁, m₂] =>
    (sign == '+' || sign == '-') && (twoDigits 0 23 h₁ h₂).isSome && (twoDigits 0 59 m₁ m₂).isSome
  | _ => false

/-- The word is a day without a time. -/
def isDay (word : List Char) : Bool :=
  afterDay? word == some []

/-- The word is a day, a time, or both. -/
def isDate (word : List Char) : Bool :=
  match afterDay? word with
  | some [] => true
  | some (c :: time) =>
    (c == 'T' || c == 't' || c == ' ') && (afterTime? time).any isOffset
  | none => afterTime? word == some []

/-! ### Words -/

def isWordChar (c : Char) : Bool :=
  c.isAlphanum || c == '_' || c == '+' || c == '-' || c == '.' || c == ':'

/-- The value that a word stands for. -/
def ofWord (word : List Char) : Except TomlError Value :=
  let written := String.ofList word
  if written = "true" then .ok (.boolean true)
  else if written = "false" then .ok (.boolean false)
  else if isDate word then .ok (.date written)
  else if isFloat word then .ok (.float written)
  else
    match integer? word with
    | some n => if inRange n then .ok (.integer n) else .error (.outOfRange written)
    | none => .error (.noValue written)

/-- The value of the word at the front of a text.  A day takes the word behind it for its time. -/
def scalar (cs : List Char) : Except TomlError (Taken Value) := do
  let word := cs.takeWhile isWordChar
  let rest := cs.dropWhile isWordChar
  match word, rest with
  | [], _ => unexpected rest
  | word, ' ' :: after =>
    let time := if isDay word then after.takeWhile isWordChar else []
    if time = [] then return (← ofWord word, rest)
    else return (← ofWord (word ++ ' ' :: time), after.dropWhile isWordChar)
  | word, rest => return (← ofWord word, rest)

end Highlight.Toml
