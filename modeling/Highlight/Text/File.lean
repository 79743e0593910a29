/-!
# Files of text
-/

namespace Highlight

/-- Why the text of a file cannot be had. -/
inductive FileError where
  | missing
  | isDirectory
  | notADirectory
  /-- The bytes of the file are no text in UTF-8. -/
  | notText
  | other (reason : String)
deriving DecidableEq, Repr

namespace FileError

/-- The fault in words. -/
def message : FileError → String
  | missing => "I/O error: No such file or directory (os error 2)"
  | isDirectory => "I/O error: Is a directory (os error 21)"
  | notADirectory => "I/O error: Not a directory (os error 20)"
  | notText => "I/O error: stream did not contain valid UTF-8"
  | other reason => "I/O error: " ++ reason

end FileError

namespace Text

/-- The text that the bytes of a file stand for. -/
def ofBytes (bytes : ByteArray) : Except FileError String :=
  match String.fromUTF8? bytes with
  | some text => .ok text
  | none => .error .notText

/-- The path of a file in a directory. -/
def inDirectory (directory file : String) : String :=
  if directory = "" || directory.toList.getLast? = some '/' then directory ++ file
  else directory ++ "/" ++ file

end Text

end Highlight
