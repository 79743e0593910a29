/-!
# Kinds of tokens

The classes that grammars sort the pieces of a line into.  Each kind has a name and, unless it is
the kind of unclassified text, a dotted scope by which editors style it; a configuration may use
either.
-/

namespace Highlight

/-- The class of a piece of a line. -/
inductive TokenKind where
  /-- Commands, type annotations and the kinds of list items. -/
  | type
  /-- Known properties. -/
  | typeIdentifier
  /-- Section names and the lines that open script blocks. -/
  | keyword
  | keywordControl
  | controlFlow
  | comment
  | string
  | number
  | constant
  | variableName
  | variableBracketed
  /-- Template expressions and macros. -/
  | variableEmbedded
  /-- Hash literals. -/
  | object
  | identifier
  /-- Text that no rule classifies. -/
  | default
deriving DecidableEq, Repr

namespace TokenKind

/-- All kinds, in order. -/
def all : List TokenKind :=
  [type, typeIdentifier, keyword, keywordControl, controlFlow, comment, string, number, constant,
   variableName, variableBracketed, variableEmbedded, object, identifier, default]

def name : TokenKind → String
  | type => "Type"
  | typeIdentifier => "TypeIdentifier"
  | keyword => "Keyword"
  | keywordControl => "KeywordControl"
  | controlFlow => "ControlFlow"
  | comment => "Comment"
  | string => "String"
  | number => "Number"
  | constant => "Constant"
  | variableName => "Variable"
  | variableBracketed => "VariableBracketed"
  | variableEmbedded => "VariableEmbedded"
  | object => "Object"
  | identifier => "Identifier"
  | default => "Default"

/-- The dotted name by which editors style the kind, empty for unclassified text. -/
def scope : TokenKind → String
  | type => "type"
  | typeIdentifier => "type.identifier"
  | keyword => "keyword"
  | keywordControl => "keyword.control"
  | controlFlow => "control.flow"
  | comment => "comment"
  | string => "string"
  | number => "number"
  | constant => "constant"
  | variableName => "variable"
  | variableBracketed => "variable.bracketed"
  | variableEmbedded => "variable.embedded"
  | object => "object"
  | identifier => "identifier"
  | default => ""

/-- The kind with the given name or nonempty scope. -/
def ofName? (s : String) : Option TokenKind :=
  all.find? fun k => k.name == s || (k.scope != "" && k.scope == s)

/-- The position of the kind among all kinds. -/
def index (k : TokenKind) : Nat :=
  all.idxOf k

end TokenKind

end Highlight
