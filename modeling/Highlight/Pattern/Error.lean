/-!
# Faults of written patterns
-/

namespace Highlight

/-- Why a text is no pattern. -/
inductive PatternError where
  | unclosedGroup
  | unopenedGroup
  | unclosedClass
  | nothingToRepeat
  | malformedRepetition
  | reversedRepetition
  /-- A range of a class whose last character comes before its first. -/
  | reversedRange
  /-- A range of a class that starts or ends with a set. -/
  | rangeOfSets
  | assertionInClass
  | unknownEscape (c : Char)
  | malformedNumber
  | malformedBoundary
  | danglingEscape
  | malformedProperty
  | unknownProperty
  /-- Something that only has a meaning in Unicode is asked for outside of it. -/
  | needsUnicode
  /-- The pattern could take bytes that are no characters. -/
  | invalidEncoding
  | lookAround
  | unknownFlag (c : Char)
  | malformedFlags
  | malformedName
  /-- Two groups have the same name. -/
  | repeatedName (name : String)
  /-- Groups, classes and repetitions stand too deep in one another. -/
  | tooDeep
  /-- The pattern would take too much memory. -/
  | tooLarge
deriving DecidableEq, Repr

namespace PatternError

/-- The fault in words. -/
def message : PatternError → String
  | unclosedGroup => "unclosed group"
  | unopenedGroup => "unopened group"
  | unclosedClass => "unclosed character class"
  | nothingToRepeat => "repetition of nothing"
  | malformedRepetition => "malformed repetition count"
  | reversedRepetition => "repetition count with its bounds reversed"
  | reversedRange => "character range with its ends reversed"
  | rangeOfSets => "character range that ends in a set"
  | assertionInClass => "assertion in a character class"
  | unknownEscape c => "unknown escape of " ++ c.toString
  | malformedNumber => "malformed character number"
  | malformedBoundary => "malformed word boundary"
  | danglingEscape => "escape of nothing"
  | malformedProperty => "malformed name of a property"
  | unknownProperty => "unknown property"
  | needsUnicode => "Unicode is switched off"
  | invalidEncoding => "pattern could take what is no text"
  | lookAround => "look-around is not supported"
  | unknownFlag c => "unknown flag " ++ c.toString
  | malformedFlags => "malformed flags"
  | malformedName => "malformed group name"
  | repeatedName name => "two groups named " ++ name
  | tooDeep => "too many groups, classes and repetitions in one another"
  | tooLarge => "too large"

end PatternError

end Highlight
