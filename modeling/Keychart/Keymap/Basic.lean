import Keychart.Number.Total
import Keychart.Text.Trim

/-!
# Keymaps

A keymap has a title and sections, and a section lists keybinds.  A keymap is
built once from a source and replaced as a whole by the next one.
-/

namespace Keychart

/-- One listed key, with what it does. -/
structure Keybind where
  keys : Text
  description : Text := []
  /-- Whether the entry was written without a binding of its own. -/
  isFake : Bool := false
  /-- Whether the entry is left out of the keymap. -/
  isIgnored : Bool := false
  /-- The action of the binding, shown when there is no description. -/
  action : Text := []
  /-- The name of the section that holds the keybind, if that has one. -/
  sectionName : Option Text := none
deriving DecidableEq, Repr

namespace Keybind

/-- What is shown beside the keys: the description, or else the action. -/
def label (keybind : Keybind) : Text :=
  if keybind.description.isEmpty then keybind.action else keybind.description

/-- The keys and the label in one line. -/
def summary (keybind : Keybind) : Text :=
  Text.trimEnd (keybind.keys ++ ' ' :: keybind.label)

end Keybind

/-- A run of keybinds under one name; the keybinds in front of all headings
have none. -/
structure Section where
  name : Option Text := none
  keybinds : List Keybind := []
deriving DecidableEq, Repr

/-- The annotated keys of one source. -/
structure Keymap where
  title : Text := []
  sections : List Section := []
  /-- Whether the source marks a region at all. -/
  hasRegion : Bool := false
  /-- Whether the mark that closes the region was met. -/
  closed : Bool := false
deriving DecidableEq, Repr

namespace Keymap

def defaultTitle : Text := Text.ofString "Key bindings"

def displayTitle (keymap : Keymap) : Text :=
  if keymap.title.isEmpty then defaultTitle else keymap.title

def keybinds (keymap : Keymap) : List Keybind :=
  keymap.sections.flatMap Section.keybinds

def isEmpty (keymap : Keymap) : Bool :=
  keymap.sections.all fun s => s.keybinds.isEmpty

def sectionCount (keymap : Keymap) : Nat := keymap.sections.length

def keybindCount (keymap : Keymap) : Nat :=
  Number.total (keymap.sections.map fun s => s.keybinds.length)

end Keymap

end Keychart
