import Keychart.Files.Path
import Keychart.Text.Quoted
import Keychart.Text.Utf8

/-!
# Reading files

What can go wrong when a file is read, and the text of a file that can be read:
its bytes in UTF-8, with a line feed for every kind of line end.
-/

namespace Keychart

/-- Why the system gives no bytes of a file. -/
inductive ReadFailure where
  | notFound
  | notDirectory
  | isDirectory
  | nameTooLong
  /-- The name holds the null character, which no name of a file does. -/
  | unnameable
  /-- Any other failure, with the number and the words of the system. -/
  | other (number : Nat) (words : Text)
deriving DecidableEq, Repr

namespace ReadFailure

def number : ReadFailure → Nat
  | notFound => 2
  | notDirectory => 20
  | isDirectory => 21
  | nameTooLong => 36
  | unnameable => 22
  | other number _ => number

def words : ReadFailure → Text
  | notFound => Text.ofString "No such file or directory"
  | notDirectory => Text.ofString "Not a directory"
  | isDirectory => Text.ofString "Is a directory"
  | nameTooLong => Text.ofString "File name too long"
  | unnameable => Text.ofString "embedded null byte"
  | other _ words => words

/-- The failure to read a path.  The system is not even asked for a name that no file
has. -/
def message (failure : ReadFailure) (path : Path) : Text :=
  if failure = unnameable then failure.words
  else
    Text.ofString "[Errno " ++ Text.ofNat failure.number ++ [']', ' '] ++ failure.words ++
      [':', ' '] ++ Text.quoted path.toText

end ReadFailure

abbrev Bytes := Except ReadFailure (List UInt8)

inductive TextFailure where
  | unreadable (failure : ReadFailure)
  | undecodable (e : Text.Utf8Error)
deriving DecidableEq, Repr

namespace TextFailure

def message (path : Path) : TextFailure → Text
  | unreadable failure => failure.message path
  | undecodable e => e.message

end TextFailure

def readText (bytes : Bytes) : Except TextFailure Text :=
  match bytes with
  | .error failure => .error (.unreadable failure)
  | .ok bytes =>
    match Text.decode bytes with
    | .error e => .error (.undecodable e)
    | .ok text => .ok (Text.universalNewlines text)

end Keychart
