import Highlight.Unicode.Case

/-!
# File names

The extension of a file is what follows the last dot of its name.  The name is the last part of
the path that is not just a dot; a dot at its start does not begin an extension.
-/

namespace Highlight.Text

/-- The parts of a path. -/
def pathParts (path : String) : List (List Char) :=
  (path.toList.splitOnP (· == '/')).filter fun part => part != [] && part != ['.']

/-- The last part of a path, unless it leads to the directory above. -/
def fileName? (path : String) : Option (List Char) :=
  match (pathParts path).getLast? with
  | some ['.', '.'] => none
  | name => name

/-- What follows the last dot, if there is a dot with something before it. -/
def afterLastDot? (name : List Char) : Option (List Char) :=
  let after := name.reverse.takeWhile (· != '.')
  if after.length + 1 < name.length then some after.reverse else none

/-- The extension of a file. -/
def extension? (path : String) : Option (List Char) :=
  (fileName? path).bind afterLastDot?

/-- An extension in the form in which it is looked up, which is in lower case. -/
def normalExtension (extension : List Char) : String :=
  String.ofList (Unicode.lowercase extension)

end Highlight.Text
