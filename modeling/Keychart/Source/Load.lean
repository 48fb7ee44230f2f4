import Keychart.Files.Read
import Keychart.Markup.Reader

/-!
# Loading a source

The keymap of an annotated file, from what the system gives as its bytes.  A
file that cannot be read is an error; any text at all has a keymap.
-/

namespace Keychart.Source

/-- Why a file gives no keymap. -/
structure SourceError where
  /-- The path as it was given. -/
  name : Text
  path : Path
  failure : TextFailure
deriving DecidableEq, Repr

def SourceError.message (e : SourceError) : Text :=
  Text.ofString "An error occurred while trying to read the config file " ++ e.name ++
    [':', ' '] ++ e.failure.message e.path

def text (path : Path) (bytes : Bytes) : Except SourceError Text :=
  match readText bytes with
  | .ok text => .ok text
  | .error failure => .error ⟨path.toText, path, failure⟩

/-- A keymap that was loaded, and what was reported on the way. -/
structure Loaded where
  keymap : Keymap
  records : List Log.Record
deriving DecidableEq, Repr

/-- The report that ends a load. -/
def doneRecord (keymap : Keymap) : Log.Record :=
  ⟨.info, Text.ofString "apekey.loader",
    Text.ofString "parsing done, sections " ++ Text.ofNat keymap.sectionCount ++
      Text.ofString ", keybinds " ++ Text.ofNat keymap.keybindCount⟩

def loadText (text : Text) : Loaded :=
  let reader := Markup.readSource text
  ⟨reader.keymap, reader.records ++ [doneRecord reader.keymap]⟩

def load (path : Path) (bytes : Bytes) : Except SourceError Loaded :=
  (text path bytes).map loadText

end Keychart.Source
