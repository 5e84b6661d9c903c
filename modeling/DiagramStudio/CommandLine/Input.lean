import DiagramStudio.Text.Numeral
import DiagramStudio.Text.Quoted
import DiagramStudio.Text.Utf8

/-!
# Inputs

A command reads a file of the working directory or standard input, and the bytes must be a text.
-/

namespace DiagramStudio

open Text

/-- Why an input cannot be read. -/
inductive InputError
  /-- There is no such file. -/
  | missing
  /-- The name is that of a directory. -/
  | directory
  /-- A file stands where the name needs a directory. -/
  | notDirectory
  /-- The bytes are not UTF-8. -/
  | notText
  deriving Repr, DecidableEq

namespace InputError

/-- The details of an error of the system. -/
def system (code : Nat) (kind message : String) : Text :=
  "Os \x7b code: ".toList ++ decimal code ++ ", kind: ".toList ++ kind.toList ++
    ", message: ".toList ++ quote message.toList ++ " \x7d".toList

def details : InputError → Text
  | missing => system 2 "NotFound" "No such file or directory"
  | directory => system 21 "IsADirectory" "Is a directory"
  | notDirectory => system 20 "NotADirectory" "Not a directory"
  | notText =>
    "Error \x7b kind: InvalidData, message: ".toList ++
      quote "stream did not contain valid UTF-8".toList ++ " \x7d".toList

end InputError

/-- The text of bytes, which must be UTF-8. -/
def readText (bytes : List UInt8) : Except InputError Text :=
  match Utf8.decode? bytes with
  | some t => .ok t
  | none => .error .notText

/-- A working directory: its files by path, and nothing else. -/
abbrev Folder := List (String × List UInt8)

namespace Folder

/-- The names along a path, without those that stand for the directory itself. -/
def steps (path : String) : List Text :=
  (segments (· == '/') path.toList).filter fun name => !name.isEmpty && name != ['.']

/-- True of names that only lead upwards. -/
def leadsUp (names : List Text) : Bool := names.all (· == ['.', '.'])

/-- The bytes of the file with the given path. Outside the folder there are directories only. -/
def read (folder : Folder) (path : String) : Except InputError (List UInt8) :=
  let names := steps path
  if path = "" then .error .missing
  else if leadsUp names then .error .directory
  else if path.toList.head? = some '/' then .error .missing
  else
    match folder.find? fun file => steps file.1 == names with
    | some file =>
      if path.toList.getLast? = some '/' then .error .notDirectory else .ok file.2
    | none =>
      if folder.any fun file => names.isPrefixOf (steps file.1) then .error .directory
      else if folder.any fun file => (steps file.1).isPrefixOf names then .error .notDirectory
      else .error .missing

end Folder

end DiagramStudio
