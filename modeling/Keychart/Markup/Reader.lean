import Keychart.Markup.Binding
import Keychart.Markup.Line
import Keychart.Keymap.Inspect
import Keychart.Log

/-!
# From annotation lines to a keymap

A reader takes the lines of a source one at a time.  Annotations wait for the
next line of code:

* a description goes to the next binding, and is dropped when the next line of
  code holds none;
* an entry without a binding takes the place of the next line of code, and is
  listed by itself as soon as another annotation ends its wait;
* a hiding mark leaves out whatever the next line of code would list.

No source is refused.  One without a region gives an empty keymap.
-/

namespace Keychart.Markup

/-- What a reader reports while it works. -/
inductive Remark where
  | nestedOpening
  | opened (title : Text)
  | closed
  | headed (name : Text)
  | droppedDescription (text : Text)
  | listed (keybind : Keybind)
  | unclosed
deriving DecidableEq, Repr

namespace Remark

def level : Remark → Log.Level
  | unclosed => .warning
  | _ => .debug

def message : Remark → Text
  | nestedOpening => Text.ofString "nested begin marker ignored"
  | opened title => Text.ofString "start token found, title " ++ Text.quoted title
  | closed => Text.ofString "end token found"
  | headed name => Text.ofString "section token found [" ++ name ++ [']']
  | droppedDescription text =>
    Text.ofString "description " ++ Text.quoted text ++
      Text.ofString " not followed by a binding"
  | listed keybind => Text.ofString "keybind token found " ++ keybind.inspect
  | unclosed => Text.ofString "The parsing ended without the end token"

def record (remark : Remark) : Log.Record :=
  ⟨remark.level, Text.ofString "apekey.builder", remark.message⟩

end Remark

/-- Where a reader stands with respect to the one region it reads. -/
inductive Phase where
  | before
  | inside
  | after
deriving DecidableEq, Repr

/-- The state between two lines.  Only the current section can still grow; the
sections in front of it are finished. -/
structure Reader where
  phase : Phase := .before
  title : Text := []
  finished : List Section := []
  current : Option Section := none
  /-- The description that waits for a binding. -/
  description : Option Text := none
  /-- The entry, keys and text, that waits for a line of code. -/
  entry : Option (Text × Text) := none
  /-- Whether the next line of code is hidden. -/
  hidden : Bool := false
  /-- What was reported so far, the latest first. -/
  remarks : List Remark := []
deriving DecidableEq, Repr

namespace Reader

/-- All sections so far, in order, with the keybinds that are left out. -/
def sections (r : Reader) : List Section := r.finished ++ r.current.toList

/-- Whether the region is open. -/
def isInside (r : Reader) : Bool := r.phase = .inside

def inNamedSection (r : Reader) : Bool :=
  match r.current with
  | some s => s.name.isSome
  | none => false

def remark (r : Reader) (note : Remark) : Reader := { r with remarks := note :: r.remarks }

/-- The section that takes the next keybind: the current one, or a new one
without a name. -/
def openSection (r : Reader) : Section := r.current.getD {}

/-- Lists a keybind in the open section, whose name it takes. -/
def list (r : Reader) (keybind : Keybind) : Reader :=
  let s := r.openSection
  let keybind := { keybind with sectionName := s.name }
  remark { r with current := some { s with keybinds := s.keybinds ++ [keybind] } }
    (.listed keybind)

/-- Lists the waiting entry by itself. -/
def flushEntry (r : Reader) : Reader :=
  match r.entry with
  | none => r
  | some (keys, text) =>
    list { r with entry := none } { keys := keys, description := text, isFake := true }

def dropWaiting (r : Reader) : Reader :=
  { r with description := none, entry := none, hidden := false }

def endSection (r : Reader) : Reader :=
  { r with finished := r.sections, current := none }

def openRegion (r : Reader) (title : Text) : Reader :=
  { r.remark (.opened title) with title := title, phase := .inside }

def closeRegion (r : Reader) : Reader :=
  { (r.remark .closed).flushEntry.dropWaiting.endSection with phase := .after }

/-- Ends the current section and opens the named one. -/
def head (r : Reader) : Option Text → Reader
  | none => r.endSection
  | some name => { (r.remark (.headed name)).endSection with current := some { name := name } }

/-- A line of code ends the wait of all annotations.  A waiting entry takes its
place; else the binding that it holds is listed. -/
def readCode (r : Reader) (line : Text) : Reader :=
  let rest := r.dropWaiting
  match r.entry with
  | some (keys, text) =>
    rest.list { keys := keys, description := text, isFake := true, isIgnored := r.hidden }
  | none =>
    match binding? line with
    | some (keys, action) =>
      rest.list
        { keys := keys, description := r.description.getD [], action := action,
          isIgnored := r.hidden }
    | none =>
      match r.description with
      | some text => rest.remark (.droppedDescription text)
      | none => rest

def readInside (r : Reader) : Line → Reader
  | .opening _ => r.remark .nestedOpening
  | .closing => r.closeRegion
  | .heading name => r.flushEntry.dropWaiting.head name
  | .description text => { r.flushEntry with description := some text }
  | .entry keys text =>
    { r.flushEntry with description := none, entry := some (keys, text) }
  | .hide _ => { r.flushEntry with hidden := true }
  | .code line => r.readCode line
  | .blank => r
  | .other _ => r

/-- Reads one line.  Before the region only a region mark counts, be it bare or
not; after it nothing does. -/
def read (r : Reader) (line : Line) : Reader :=
  match r.phase with
  | .before =>
    match line with
    | .opening title => r.openRegion title
    | .closing => r.openRegion []
    | _ => r
  | .inside => r.readInside line
  | .after => r

def readAll (r : Reader) (lines : List Line) : Reader := lines.foldl read r

/-- Ends the wait of all annotations, at the end of a source.  A region that is
still open is reported. -/
def settle (r : Reader) : Reader :=
  if r.isInside then r.flushEntry.dropWaiting.remark .unclosed else r

/-- A section without the keybinds that are left out. -/
def visibleSection (s : Section) : Section :=
  { s with keybinds := s.keybinds.filter fun k => !k.isIgnored }

/-- The keymap read so far.  A section without a name is listed only if it
shows a keybind. -/
def keymap (r : Reader) : Keymap where
  title := r.title
  sections := (r.sections.map visibleSection).filter
    fun s => s.name.isSome || !s.keybinds.isEmpty
  hasRegion := r.phase ≠ .before
  closed := r.phase = .after

def finish (r : Reader) : Reader × Keymap := (r.settle, r.settle.keymap)

def records (r : Reader) : List Log.Record := r.remarks.reverse.map Remark.record

end Reader

def readSource (source : Text) : Reader :=
  (({} : Reader).readAll (readLines source)).settle

end Keychart.Markup

namespace Keychart

def Keymap.ofLines (lines : List Markup.Line) : Keymap :=
  (({} : Markup.Reader).readAll lines).settle.keymap

def Keymap.ofSource (source : Text) : Keymap :=
  Keymap.ofLines (Markup.readLines source)

end Keychart
