import Keychart.Key.Split
import Keychart.Text.Utf8

/-!
# Reads from the terminal

The keys of successive reads.  A character that one read leaves unfinished is
completed by the next.
-/

namespace Keychart.Key

/-- The bytes of a character that the reads so far left unfinished. -/
structure Reads where
  unfinished : List UInt8 := []
deriving DecidableEq, Repr

/-- The greatest number of bytes of one read. -/
def Reads.size : Nat := 4096

def Reads.read (r : Reads) (bytes : List UInt8) : List Text × Reads :=
  let (text, unfinished) := Text.decodeRead r.unfinished bytes
  (splitInput text, ⟨unfinished⟩)

def Reads.readAll (r : Reads) : List (List UInt8) → List (List Text)
  | [] => []
  | bytes :: rest =>
    let (items, r) := r.read bytes
    items :: r.readAll rest

end Keychart.Key
