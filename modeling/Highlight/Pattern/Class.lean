import Highlight.Pattern.Escape

/-!
# Classes in written patterns

A class lists the characters, ranges and sets of which it is the union, between brackets.  Classes
can stand in one another, and parts of a class can be put together by operators, of which the
first is applied first.
-/

namespace Highlight.Pattern.Item

/-- An operator between two parts of a class. -/
inductive SetOperator where
  | inter
  | diff
  | symmDiff
deriving DecidableEq, Repr

def SetOperator.apply : SetOperator → CharSet → CharSet → CharSet
  | inter => CharSet.inter
  | diff => CharSet.diff
  | symmDiff => CharSet.symmDiff

/-- A set with the height of its brackets and operators. -/
structure WrittenSet where
  set : CharSet
  height : Nat

/-- The items of a class behind its last operator. -/
structure ClassPart where
  /-- The union of the items, if there are any. -/
  union : Option CharSet := none
  /-- The number of items. -/
  count : Nat := 0
  /-- The height of the highest item. -/
  height : Nat := 0

namespace ClassPart

/-- The part with another item. -/
def add (p : ClassPart) (s : CharSet) (height : Nat) : ClassPart where
  union := match p.union with
    | none => some s
    | some a => some (CharSet.union a s)
  count := p.count + 1
  height := max p.height height

/-- The set of a part alone. -/
def close (p : ClassPart) : WrittenSet :=
  ⟨p.union.getD CharSet.nothing, if p.count ≤ 1 then p.height else p.height + 1⟩

end ClassPart

/-- The set of a class that ends with a part, where `left` is what comes before the part. -/
def ClassPart.closeBehind (p : ClassPart) (left : Option (WrittenSet × SetOperator)) :
    WrittenSet :=
  let right := p.close
  match left with
  | none => right
  | some (l, operator) => ⟨operator.apply l.set right.set, max l.height right.height + 1⟩

/-- The set in brackets, or its complement if `negated` holds. -/
def WrittenSet.bracket (s : WrittenSet) (f : Flags) (negated : Bool) :
    Except PatternError WrittenSet := do
  return ⟨← f.complement negated s.set, s.height + 1⟩

/-- A named set that stands between colons behind an opening bracket, if one does. -/
def namedSet? (f : Flags) (cs : List Char) : Option (Except PatternError CharSet × List Char) :=
  match cs with
  | ':' :: cs =>
    let (negated, cs) := match cs with
      | '^' :: cs => (true, cs)
      | cs => (false, cs)
    match Atom.asciiSet? f (String.ofList (cs.takeWhile (· != ':'))), cs.dropWhile (· != ':') with
    | some s, ':' :: ']' :: rest => some (f.complement negated s, rest)
    | _, _ => none
  | _ => none

/-- One item of a class: a character or an escape. -/
def classItem (f : Flags) : List Char → Except PatternError (Atom × List Char)
  | '\\' :: rest => Atom.escaped f rest
  | c :: rest => .ok (.literal c, rest)
  | [] => .error .unclosedClass

/-- The characters from `first` to `last`, which can be in a class. -/
def boundedRange (f : Flags) (first last : Char) : Except PatternError CharSet :=
  if f.unicode || last.toNat < 128 then .ok (f.range first last) else .error .needsUnicode

/-- The set that an item of a class stands for. -/
def classSet (f : Flags) : Atom → Except PatternError CharSet
  | .literal c => boundedRange f c c
  | .set s => .ok s
  | .assertion _ => .error .assertionInClass

/-- The range between two items of a class. -/
def classRange (f : Flags) : Atom → Atom → Except PatternError CharSet
  | .literal a, .literal b => if b < a then .error .reversedRange else boundedRange f a b
  | _, _ => .error .rangeOfSets

/-- The dashes at the start of a class, which stand for themselves. -/
def leadingDashes (f : Flags) (part : ClassPart) : List Char → ClassPart × List Char
  | '-' :: rest => leadingDashes f (part.add (CharSet.single '-') 0) rest
  | c :: rest =>
    if f.ignoreSpacing && Unicode.isSpace c then leadingDashes f part rest else (part, c :: rest)
  | [] => (part, [])

/-- What the start of a class says: whether its complement is meant, and the dashes or the closing
bracket that stand for themselves there. -/
def classOpening (f : Flags) (cs : List Char) : Bool × ClassPart × List Char :=
  let cs := f.skip cs
  let negated := cs.head? == some '^'
  let (part, cs) := leadingDashes f {} (f.skip (if negated then cs.drop 1 else cs))
  match cs with
  | ']' :: rest =>
    if part.count = 0 then (negated, part.add (CharSet.single ']') 0, rest) else (negated, part, cs)
  | _ => (negated, part, cs)

/-- The body of a class behind the items collected in `part`, of which `left` says what comes
before the last operator. -/
def classBody (f : Flags) : (fuel : Nat) → (left : Option (WrittenSet × SetOperator)) →
    (part : ClassPart) → List Char → Except PatternError (WrittenSet × List Char)
  | 0, _, _, _ => .error .unclosedClass
  | fuel + 1, left, part, cs =>
    let operate (operator : SetOperator) (rest : List Char) :=
      classBody f fuel (some (part.closeBehind left, operator)) {} rest
    match f.skip cs with
    | [] => .error .unclosedClass
    | ']' :: rest => .ok (part.closeBehind left, rest)
    | '&' :: '&' :: rest => operate .inter rest
    | '-' :: '-' :: rest => operate .diff rest
    | '~' :: '~' :: rest => operate .symmDiff rest
    | '[' :: rest =>
      match namedSet? f rest with
      | some (s, rest) => do classBody f fuel left (part.add (← s) 0) rest
      | none => do
        let (negated, start, rest) := classOpening f rest
        let (s, rest) ← classBody f fuel none start rest
        let s ← s.bracket f negated
        classBody f fuel left (part.add s.set s.height) rest
    | cs => do
      let (item, rest) ← classItem f cs
      match f.skip rest with
      | '-' :: rest =>
        match f.skip rest with
        | ']' :: _ | '-' :: _ =>
          classBody f fuel left (part.add (← classSet f item) 0) ('-' :: rest)
        | rest => do
          let (last, rest) ← classItem f rest
          classBody f fuel left (part.add (← classRange f item last) 0) rest
      | rest => classBody f fuel left (part.add (← classSet f item) 0) rest

/-- The class that an opening bracket starts. -/
def bracketed (f : Flags) (cs : List Char) : Except PatternError (Item × List Char) := do
  let (negated, start, rest) := classOpening f cs
  let (s, rest) ← classBody f (rest.length + 1) none start rest
  let s ← s.bracket f negated
  return (piece (.set s.set) s.height, rest)

end Highlight.Pattern.Item
