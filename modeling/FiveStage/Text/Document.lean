/-!
# Documents

The contents of a file as text, and the lines of a text.  A file may be out of reach, and its bytes
may not be UTF-8.
-/

namespace FiveStage.Text

inductive ReadFailure where
  | missing
  | denied
  | notDirectory
  | directory
  | nameTooLong
  | notUtf8
  deriving DecidableEq, Repr

def ReadFailure.message : ReadFailure → String
  | missing => "No such file or directory (os error 2)"
  | denied => "Permission denied (os error 13)"
  | notDirectory => "Not a directory (os error 20)"
  | directory => "Is a directory (os error 21)"
  | nameTooLong => "File name too long (os error 36)"
  | notUtf8 => "stream did not contain valid UTF-8"

def readDocument (contents : Except ReadFailure ByteArray) : Except ReadFailure String :=
  match contents with
  | .error failure => .error failure
  | .ok bytes =>
      match String.fromUTF8? bytes with
      | some text => .ok text
      | none => .error .notUtf8

def lines (text : List Char) : List (List Char) := text.splitOn '\n'

end FiveStage.Text
