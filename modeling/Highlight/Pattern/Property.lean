import Highlight.Unicode.Age
import Highlight.Unicode.Break
import Highlight.Unicode.Script

/-!
# Named properties

A pattern can ask for the characters with a property by the name of the property, or by its name
and the name of its value.  Names are taken as equal if they differ only in case, blanks, hyphens
and underscores, and in whether they start with `is`.
-/

namespace Highlight.Pattern.Property

/-! ### Names -/

/-- The name starts with `is`, however it is written. -/
def startsWithIs (name : List Char) : Bool :=
  (name.take 2).map Char.toLower == ['i', 's']

/-- The characters of a name that matter, in lower case. -/
def essence (name : List Char) : List Char :=
  (name.filter fun c => c != ' ' && c != '_' && c != '-' && c.toNat < 128).map Char.toLower

/-- The form in which equal names agree.  The abbreviation of ISO_Comment is not taken for that of
the category Other. -/
def plainName (name : List Char) : String :=
  if startsWithIs name then
    let rest := essence (name.drop 2)
    if rest = ['c'] then "isc" else String.ofList rest
  else String.ofList (essence name)

/-- What stands under a name. -/
def named? (table : List (List String × List (Nat × Nat))) (name : String) :
    Option (List (Nat × Nat)) :=
  (table.find? fun (names, _) => name ∈ names).map (·.2)

/-! ### Properties -/

/-- The characters that are used in the script with a name. -/
def scriptExtensions? (name : String) : Option (List (Nat × Nat)) :=
  (Unicode.Script.named.find? fun (names, _) => name ∈ names).map fun (names, own) =>
    let (used, others) := Unicode.Script.extensions.partition fun (scripts, _) =>
      scripts.any (· ∈ names)
    Unicode.unite (Unicode.without own (Unicode.unite (others.map (·.2))) :: used.map (·.2))

/-- The abbreviations of categories that are abbreviations of properties with values as well. -/
def ambiguous : List String := ["cf", "lc", "sc"]

/-- The characters with the property, of the category or of the script with a name. -/
def ofName? (name : List Char) : Option (List (Nat × Nat)) :=
  let name := plainName name
  (if name ∈ ambiguous then none else named? Unicode.Property.named name) <|>
    named? Unicode.Category.named name <|> named? Unicode.Script.named name

/-- The characters for which the property with a name has the value with a name. -/
def ofValue? (property value : List Char) : Option (List (Nat × Nat)) :=
  let value := plainName value
  match plainName property with
  | "gc" | "generalcategory" => named? Unicode.Category.named value
  | "sc" | "script" => named? Unicode.Script.named value
  | "scx" | "scriptextensions" => scriptExtensions? value
  | "age" => Unicode.Age.ranges? value
  | "gcb" | "graphemeclusterbreak" => named? Unicode.ClusterBreak.named value
  | "wb" | "wordbreak" => named? Unicode.WordBreak.named value
  | "sb" | "sentencebreak" => named? Unicode.SentenceBreak.named value
  | _ => none

/-- The text in front of an operator and the text behind it, if the operator occurs. -/
def splitAt? (operator : List Char) : List Char → Option (List Char × List Char)
  | [] => none
  | c :: cs =>
    if operator.isPrefixOf (c :: cs) then some ([], (c :: cs).drop operator.length)
    else (splitAt? operator cs).map fun (front, back) => (c :: front, back)

/-- The characters asked for between braces.  Which operator stands between a property and its
value makes no difference. -/
def ofText? (text : List Char) : Option (List (Nat × Nat)) :=
  match splitAt? ['!', '='] text <|> splitAt? [':'] text <|> splitAt? ['='] text with
  | some (property, value) => ofValue? property value
  | none => ofName? text

end Highlight.Pattern.Property
