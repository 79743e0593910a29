/-!
# Hexadecimal numbers
-/

namespace Highlight.Text

/-- The value of a hexadecimal digit. -/
def hexDigit? (c : Char) : Option Nat :=
  if c.isDigit then some (c.toNat - 48)
  else if 'a' ≤ c && c ≤ 'f' then some (c.toNat - 87)
  else if 'A' ≤ c && c ≤ 'F' then some (c.toNat - 55)
  else none

/-- The number with the given digits, the first of them the highest. -/
def ofDigits (base : Nat) (digits : List Nat) : Nat :=
  digits.foldl (fun n d => base * n + d) 0

/-- The character with the number written in hexadecimal digits. -/
def charOfHex? (digits : List Char) : Option Char :=
  match digits.mapM hexDigit? with
  | some (d :: ds) =>
    let n := ofDigits 16 (d :: ds)
    if n.isValidChar then some (Char.ofNat n) else none
  | _ => none

/-- A number in hexadecimal digits. -/
def hex (n : Nat) : List Char :=
  Nat.toDigits 16 n

end Highlight.Text
