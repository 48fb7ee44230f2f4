import Keychart.Source.Load

/-!
# The store

The store holds the current keymap with its keybinds in one list, which is what
searches run over.  Both are replaced together, and the store counts how often.
A load that fails leaves all of it as it was.
-/

namespace Keychart.Source

/-- A keymap and its keybinds. -/
structure Snapshot where
  keymap : Keymap := {}
  keybinds : List Keybind := []
deriving DecidableEq, Repr

def Snapshot.ofKeymap (keymap : Keymap) : Snapshot := ⟨keymap, keymap.keybinds⟩

/-- The current keymap of a path. -/
structure Store where
  path : Path
  current : Snapshot := {}
  /-- How often the keymap was replaced. -/
  generation : Nat := 0
deriving DecidableEq, Repr

namespace Store

def ofKeymap (path : Path) (keymap : Keymap) : Store :=
  { path := path, current := .ofKeymap keymap }

def keymap (s : Store) : Keymap := s.current.keymap

def keybinds (s : Store) : List Keybind := s.current.keybinds

def swap (s : Store) (keymap : Keymap) : Store :=
  { s with current := .ofKeymap keymap, generation := s.generation + 1 }

/-- Loads the file of the path, given what the system says of it. -/
def load (s : Store) (bytes : Bytes) : Store × Except SourceError Loaded :=
  match Source.load s.path bytes with
  | .ok loaded => (s.swap loaded.keymap, .ok loaded)
  | .error e => (s, .error e)

end Store

end Keychart.Source
